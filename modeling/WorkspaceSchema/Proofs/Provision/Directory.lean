import WorkspaceSchema.Proofs.Directory.Client
import WorkspaceSchema.Proofs.Http.Redirects
import WorkspaceSchema.Provision
import WorkspaceSchema.Schema.Saml

/-!
# What stands behind a created schema

A directory client takes a schema to be created when a response grants the insertion and reads as a
schema.  It does not ask which request the response answers.  `created_is_answered` says so: redirects
that repeat the request lead to the answer to an insertion, and if some redirect on the way does not
repeat, what is read is the answer to a request for another place.  `created_without_insertion` is a
case of the latter, in which the only insertion sent was answered with a redirect.
-/

namespace WorkspaceSchema

namespace Directory.Client

/-- A request that succeeds was sent, and led to a response that grants it and can be read. -/
lemma leads_of_execute {α : Type} {c : Client} {method : Http.Method} {url : String}
    {body : Option Http.Body} {read : List UInt8 → Except Json.Error α} {b b' : Session} {a : α}
    (succeeds : (c.execute method url body read).runOn b = (.ok a, b')) :
    ∃ r n passed final response bytes, r.method = method ∧ r.body = body ∧
      c.transport.Leads r n passed final response b'.network ∧
      response.isSuccess = true ∧ response.body = .ok bytes ∧ read bytes = .ok a := by
  rw [runOn_execute] at succeeds
  rcases authorized : c.credentials.headers.runOn b with ⟨e | headers, b₁⟩
  · rw [authorized] at succeeds
    cases succeeds
  · rw [authorized] at succeeds
    obtain ⟨came, rfl⟩ := Prod.mk.inj succeeds
    have decodes := (received_eq_ok_iff
      (e := (c.order method url body headers).exchange b₁.network)).mp came
    obtain ⟨response, bytes, answered, granted, whole, parsed⟩ := decodes
    obtain ⟨r, passed, final, sameMethod, sameBody, leads⟩ :=
      Http.Order.leads_of_answer answered
    exact ⟨r, b₁.network, passed, final, response, bytes, sameMethod, sameBody, leads, granted, whole,
      parsed⟩

/-- An insertion that succeeds led to a response that grants it and reads as the schema. -/
lemma leads_of_insertSchema {c : Client} {customer : String} {schema created : Schema}
    {b b' : Session} (succeeds : (c.insertSchema customer schema).runOn b = (.ok created, b')) :
    ∃ r n passed final response bytes, r.method = .post ∧ r.body = some (.json schema.print) ∧
      c.transport.Leads r n passed final response b'.network ∧
      response.isSuccess = true ∧ response.body = .ok bytes ∧ Schema.parse bytes = .ok created := by
  rw [runOn_insertSchema] at succeeds
  rcases executed : (c.execute .post (c.schemasUrl customer) (some (.json schema.print))
    Schema.parse).runOn (b.told (.inserting (c.schemasUrl customer) schema.schemaName)) with ⟨e | a, b₁⟩
  · rw [executed] at succeeds
    cases succeeds
  · rw [executed] at succeeds
    obtain ⟨same, rfl⟩ := Prod.mk.inj succeeds
    obtain rfl : a = created := Except.ok.inj same
    rw [Session.told_network]
    exact leads_of_execute executed

end Directory.Client

/-- A provisioner that creates a schema has inserted it. -/
lemma Provisioner.exists_insertion_of_created {p : Provisioner} {c : Directory.Client}
    {schema created : Schema} {b b' : Session}
    (ends : (p.ensure c.service schema).runOn b = (.ok (.created created), b')) :
    ∃ b₁ b₂, (c.insertSchema p.customer schema).runOn b₁ = (.ok created, b₂) ∧
      b'.network = b₂.network := by
  unfold ensure Directory.Client.service at ends
  dsimp only at ends
  rw [Attempt.runOn_bind] at ends
  rcases listed : (c.listSchemas p.customer).runOn b with ⟨e | existing, b₁⟩
  · rw [listed] at ends
    cases ends
  · rw [listed] at ends
    dsimp only at ends
    split at ends
    · cases ends
    · split at ends
      · cases ends
      · rw [Attempt.runOn_bind] at ends
        rcases inserted : (c.insertSchema p.customer schema).runOn b₁ with ⟨e | a, b₂⟩
        · rw [inserted] at ends
          cases ends
        · rw [inserted] at ends
          obtain ⟨same, rfl⟩ := Prod.mk.inj ends
          obtain rfl : a = created := Outcome.created.inj (Except.ok.inj same)
          exact ⟨b₁, b₂, inserted, rfl⟩

namespace Directory.Client

/-- A schema counts as created when the insertion led to a response that grants it and reads as a
schema.  This response answers the last request on the wire: the insertion itself, at some place, if all
redirects on the way repeat it, and otherwise a request for a place alone, which inserts nothing. -/
theorem created_is_answered {c : Client} {customer : String} {schema created : Schema} {b b' : Session}
    (counts : (c.insertSchema customer schema).runOn b = (.ok created, b') ∨
      ∃ p : Provisioner, (p.ensure c.service schema).runOn b = (.ok (.created created), b')) :
    ∃ first n passed final response bytes earlier,
      first.method = .post ∧ first.body = some (.json schema.print) ∧
      c.transport.Leads first n passed final response b'.network ∧
      response.isSuccess = true ∧ response.body = .ok bytes ∧ Schema.parse bytes = .ok created ∧
      b'.network.sent = earlier ++ [final.toSent] ∧
      ((∀ redirect ∈ passed, redirect.status ∈ Http.Client.repeatingStatuses) ∧
          final.method = .post ∧ final.body = some (.json schema.print) ∨
        (∃ redirect ∈ passed, redirect.status ∉ Http.Client.repeatingStatuses) ∧
          final.method = .get ∧ final.body = none) := by
  obtain ⟨customer, b₁, b₂, inserted, same⟩ : ∃ customer b₁ b₂,
      (c.insertSchema customer schema).runOn b₁ = (.ok created, b₂) ∧ b'.network = b₂.network := by
    rcases counts with inserted | ⟨p, ends⟩
    · exact ⟨customer, b, b', inserted, rfl⟩
    · exact ⟨p.customer, Provisioner.exists_insertion_of_created ends⟩
  obtain ⟨first, n, passed, final, response, bytes, method, body, leads, granted, whole, parsed⟩ :=
    leads_of_insertSchema inserted
  rw [same]
  obtain ⟨earlier, sent⟩ := leads.sent
  have ending := leads.same_or_get
  rw [method, body] at ending
  exact ⟨first, n, passed, final, response, bytes, n.sent ++ earlier, method, body, leads, granted,
    whole, parsed, by rw [sent, List.append_assoc], ending⟩

/-- A client of a directory on the machine itself, with a fixed token. -/
def sample : Client :=
  ⟨.static, "http://[::1]", .ofSeconds 30⟩

/-- The session of a client whose insertion is redirected to `/moved`, and finds a schema there. -/
def sampleSession (status : Nat) : Session where
  clock := ⟨0, 0⟩
  network :=
    { reachable := true
      replies := [.answer status [("location", "/moved")] [],
        .answer 200 [] (Utf8.ofString "\x7b\"schemaName\":\"S\"\x7d")] }

/-- A schema may count as created although nothing answered its insertion but a redirect: the schema
that was read is the answer to a request for another place, without a body. -/
theorem created_without_insertion :
    let schema : Schema := { schemaName := "S" }
    let (result, after) := (sample.insertSchema "c" schema).runOn (sampleSession 303)
    result = .ok schema ∧ after.network.sent.map (fun sent => (sent.method, sent.url, sent.body)) =
      [(.post, "http://[::1]/admin/directory/v1/customer/c/schemas", some (.json schema.print)),
        (.get, "http://[::1]/moved", none)] := by
  exact ⟨rfl, by decide⟩

/-- A redirect that repeats leads to the answer to an insertion. -/
theorem created_behind_repetition :
    let schema : Schema := { schemaName := "S" }
    let (result, after) := (sample.insertSchema "c" schema).runOn (sampleSession 308)
    result = .ok schema ∧ ∃ (final : Http.Request) (earlier : List Http.Sent),
      after.network.sent = earlier ++ [final.toSent] ∧
        final.method = .post ∧ final.body = some (.json schema.print) := by
  intro schema
  have inserted : ((sample.insertSchema "c" schema).runOn (sampleSession 308)).1 = .ok schema := rfl
  have last : (((sample.insertSchema "c" schema).runOn
      (sampleSession 308)).2.network.sent.getLast?).map (·.method) = some .post := by decide
  generalize came : (sample.insertSchema "c" schema).runOn (sampleSession 308) = outcome at inserted last ⊢
  obtain ⟨result, after⟩ := outcome
  obtain rfl : result = .ok schema := inserted
  obtain ⟨_, _, passed, final, _, _, earlier, -, -, -, -, -, -, sent, ending⟩ :=
    created_is_answered (.inl came)
  refine ⟨rfl, final, earlier, sent, ?_⟩
  rcases ending with ⟨-, method, body⟩ | ⟨-, method, -⟩
  · exact ⟨method, body⟩
  · rw [sent, List.getLast?_concat] at last
    exact absurd (method.symm.trans (Option.some.inj last)) (by simp)

end Directory.Client

end WorkspaceSchema
