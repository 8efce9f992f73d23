import WorkspaceSchema.Proofs.Directory.Calls
import WorkspaceSchema.Proofs.Schema.Document

/-!
# What an insertion sends

An insertion gives one order, with the text of the schema for its body, if there are headers for it.  The headers
may take an order of their own, for a token, but this one sends a form; and a redirect goes on with the body that was
sent or with none.  So whatever comes back, no other document goes over the wire than the text of the schema
(`Approach.Delivers`).

What this text says, read by someone who knows nothing of schemas, is written down in `Schema.IsWrittenAs`.
-/

namespace WorkspaceSchema.Directory.Client

/-- That an approach inserts a text for a customer.  A token may be asked for first, with a form.  If there are headers
then, there is one order behind it, to the place where the schemas of the customer are, and the text is its body.  No
other document goes over the wire, and where the place is in reach, the text does. -/
structure Approach.Delivers (p : Approach) (c : Client) (customer text : String) (b b' : Session) : Prop where
  carries : Http.Carries b.network p.exchanges b'.network
  renewal_body : ∀ e ∈ p.renewal, ∀ other, e.order.body ≠ some (.json other)
  call_sent : p.call.isSome = true ↔ ∃ headers, (c.credentials.headers.runOn b).1 = .ok headers
  call_order : ∀ e ∈ p.call, e.order.method = .post ∧ e.order.target = c.schemasUrl customer ∧
    e.order.body = some (.json text)
  wire : ∃ trail, b'.network.sent = b.network.sent ++ trail ∧
    ∀ sent ∈ trail, ∀ other, sent.body = some (.json other) → other = text
  arrives : ∀ place user, Http.Client.target (c.schemasUrl customer) = .ok (place, user) →
    b.network.reachable = true → ∀ e ∈ p.call,
      ∃ sent ∈ e.trail, sent.method = .post ∧ sent.body = some (.json text)

/-- The wire of an approach is settled by its orders. -/
lemma Approach.Delivers.of_orders {p : Approach} {c : Client} {customer text : String} {b b' : Session}
    (carries : Http.Carries b.network p.exchanges b'.network)
    (renewal_body : ∀ e ∈ p.renewal, ∀ other, e.order.body ≠ some (.json other))
    (call_sent : p.call.isSome = true ↔ ∃ headers, (c.credentials.headers.runOn b).1 = .ok headers)
    (call_order : ∀ e ∈ p.call, e.order.method = .post ∧ e.order.target = c.schemasUrl customer ∧
      e.order.body = some (.json text)) : p.Delivers c customer text b b' where
  carries := carries
  renewal_body := renewal_body
  call_sent := call_sent
  call_order := call_order
  wire := by
    refine ⟨_, carries.sent, ?_⟩
    intro sent member other body
    rcases carries.body_of_mem member with without | ⟨e, among, same⟩
    · rw [without] at body
      cases body
    · rw [same] at body
      rcases List.mem_append.mp among with renewed | called
      · exact absurd body (renewal_body e (Option.mem_toList.mp renewed) other)
      · obtain ⟨-, -, sends⟩ := call_order e (Option.mem_toList.mp called)
        rw [sends] at body
        exact (Http.Body.json.inj (Option.some.inj body)).symm
  arrives := by
    intro place user target reachable e called
    obtain ⟨method, aim, sends⟩ := call_order e called
    have among : e ∈ p.exchanges := List.mem_append_right _ (Option.mem_toList.mpr called)
    rw [← aim] at target
    rw [← method, ← sends]
    exact (carries.continuous e among).exists_sent reachable target

/-- An insertion is an approach that inserts the text of the schema. -/
lemma exists_delivers (c : Client) (customer : String) (schema : Schema) (b : Session) :
    ∃ p : Approach, p.Delivers c customer schema.print b ((c.insertSchema customer schema).runOn b).2 := by
  obtain ⟨renewal, carries, renewal_body⟩ := Credentials.exists_carries_headers c.credentials b
  rcases outcome : c.credentials.headers.runOn b with ⟨e | headers, b'⟩
  · have network : ((c.insertSchema customer schema).runOn b).2.network = b'.network :=
      (c.make_of_error b outcome (.insert customer schema)).2.1
    rw [outcome] at carries
    refine ⟨⟨renewal, none⟩, .of_orders ?_ renewal_body (by simp [outcome]) (by simp)⟩
    rw [network, Approach.exchanges, Option.toList_none, List.append_nil]
    exact carries
  · have network : ((c.insertSchema customer schema).runOn b).2.network =
        (c.orderOf (.insert customer schema) headers).after b'.network :=
      c.make_of_headers b outcome (.insert customer schema)
    rw [outcome] at carries
    refine ⟨⟨renewal, some ((c.orderOf (.insert customer schema) headers).exchange b'.network)⟩,
      .of_orders ?_ renewal_body (by simp [outcome]) ?_⟩
    · rw [network]
      exact carries.append (.single _ _)
    · intro e member
      obtain rfl := Option.some.inj member
      exact ⟨rfl, rfl, rfl⟩

/-- Whatever the session is, an insertion sends one text, the text of the schema, and this is a document with the
attributes that are set for members, in the schema and in its fields, and no others, and without a null.  For the
schema of the single sign-on application the document is written out, and no name changes anything in it but the two
texts that are the name. -/
theorem insertion_sends_document (c : Client) (customer : String) :
    (∀ schema : Schema,
      (∀ b, ∃ p : Approach, p.Delivers c customer schema.print b ((c.insertSchema customer schema).runOn b).2) ∧
      ∃ document, Json.parse (Utf8.ofString schema.print) = .ok document ∧ schema.IsWrittenAs document ∧
        document.NullFree) ∧
    ∀ name, Json.parse (Utf8.ofString (Saml.schema name).print) = .ok (.object
      [("displayName", .text name),
       ("fields", .array
         [.object [("displayName", .text "Role"), ("fieldName", .text "IAM_Role"),
            ("fieldType", .text "STRING"), ("multiValued", .bool true)],
          .object [("displayName", .text "SessionDuration"), ("fieldName", .text "SessionDuration"),
            ("fieldType", .text "INT64"), ("multiValued", .bool false)]]),
       ("schemaName", .text name)]) := by
  refine ⟨?_, Saml.parse_print_schema⟩
  intro schema
  have written : schema.IsWrittenAs schema.toJson.sorted := schema.isWrittenAs_sorted
  exact ⟨c.exists_delivers customer schema, _, schema.parse_print_sorted, written, written.nullFree⟩

end WorkspaceSchema.Directory.Client
