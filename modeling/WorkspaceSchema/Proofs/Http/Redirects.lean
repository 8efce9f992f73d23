import WorkspaceSchema.Proofs.Http.Order

/-!
# Which request a response answers

The response that a client comes back with need not be one to the request that it was given.  Redirects
stand between the two, and some of them turn the request into another one.

`Client.Leads` follows a request to its response, with the redirects that it passes on the way and the
request that the response answers in the end.  That request is the last one on the wire (`Leads.sent`).
It is the same as the first one but for its place, unless some redirect on the way is of a kind that does
not repeat; then it asks for a place, and nothing of the first request is left (`Leads.same_or_get`).
-/

namespace WorkspaceSchema.Http

namespace Client

/-- A request leads to a response.  All responses before it were redirects, and `final` is the request
that it answers. -/
inductive Leads (c : Client) :
    Request → Network → List Response → Request → Response → Network → Prop where
  | answered {r : Request} {response : Response} {n n' : Network}
      (came : c.exchange r n = (.ok response, n')) (ends : redirected? r response = none) :
      Leads c r n [] r response n'
  | redirected {r next final : Request} {first response : Response} {passed : List Response}
      {n n' n'' : Network} (came : c.exchange r n = (.ok first, n'))
      (asked : redirected? r first = some next) (onward : Leads c next n' passed final response n'') :
      Leads c r n (first :: passed) final response n''

variable {c : Client} {r final : Request} {response : Response} {passed : List Response}
  {n n' : Network}

/-- A client that comes back with a response was led to it. -/
lemma leads_of_follow {hops : Nat} (came : c.follow hops r n = (.ok response, n')) :
    ∃ passed final, c.Leads r n passed final response n' := by
  induction hops generalizing r n with
  | zero =>
    unfold follow at came
    rcases first : c.exchange r n with ⟨obstacle | answer, n₁⟩
    · rw [first] at came
      cases came
    · rw [first] at came
      dsimp only at came
      cases asked : redirected? r answer with
      | none =>
        rw [asked] at came
        cases came
        exact ⟨[], r, .answered first asked⟩
      | some next =>
        rw [asked] at came
        cases came
  | succ hops ih =>
    unfold follow at came
    rcases first : c.exchange r n with ⟨obstacle | answer, n₁⟩
    · rw [first] at came
      cases came
    · rw [first] at came
      dsimp only at came
      cases asked : redirected? r answer with
      | none =>
        rw [asked] at came
        cases came
        exact ⟨[], r, .answered first asked⟩
      | some next =>
        rw [asked] at came
        dsimp only at came
        split at came
        · obtain ⟨passed, final, onward⟩ := ih came
          exact ⟨answer :: passed, final, .redirected first asked onward⟩
        · cases came

/-- A request that is answered went over the wire. -/
lemma sent_of_exchange (came : c.exchange r n = (.ok response, n')) :
    n'.sent = n.sent ++ [r.toSent] := by
  have passes := c.exchange_passes r n
  rw [came] at passes
  have reachable : n.reachable = true := by
    by_contra unreachable
    unfold exchange at came
    rw [if_pos (by simpa using unreachable)] at came
    cases came
  have sent := passes.sent
  rwa [if_pos reachable] at sent

/-- The request that is answered is the last one on the wire. -/
lemma Leads.sent (h : c.Leads r n passed final response n') :
    ∃ earlier, n'.sent = n.sent ++ (earlier ++ [final.toSent]) := by
  induction h with
  | answered came ends => exact ⟨[], sent_of_exchange came⟩
  | redirected came asked onward ih =>
    obtain ⟨earlier, sent⟩ := ih
    rw [sent_of_exchange came] at sent
    exact ⟨_ :: earlier, by rw [sent, List.append_assoc]; rfl⟩

/-- The request that is answered is the first one, at some place, if every redirect on the way repeats
it.  If one of them does not, it asks for a place alone. -/
lemma Leads.same_or_get (h : c.Leads r n passed final response n') :
    (∀ redirect ∈ passed, redirect.status ∈ repeatingStatuses) ∧
        final.method = r.method ∧ final.body = r.body ∨
      (∃ redirect ∈ passed, redirect.status ∉ repeatingStatuses) ∧
        final.method = .get ∧ final.body = none := by
  induction h with
  | answered came ends => exact .inl ⟨by simp, rfl, rfl⟩
  | @redirected r next final first response passed n n' n'' came asked onward ih =>
    rcases cases_of_redirected? asked with ⟨repeating, method, body⟩ | ⟨other, method, body⟩
    · rcases ih with ⟨all, method', body'⟩ | ⟨⟨redirect, member, other⟩, method', body'⟩
      · have every : ∀ redirect ∈ first :: passed, redirect.status ∈ repeatingStatuses :=
          List.forall_mem_cons.mpr ⟨repeating, all⟩
        exact .inl ⟨every, method'.trans method, body'.trans body⟩
      · exact .inr ⟨⟨redirect, List.mem_cons_of_mem first member, other⟩, method', body'⟩
    · have turned : ∃ redirect ∈ first :: passed, redirect.status ∉ repeatingStatuses :=
        ⟨first, List.mem_cons_self, other⟩
      -- A request for a place alone stays one, whatever the redirects behind it do.
      rcases ih with ⟨-, method', body'⟩ | ⟨-, method', body'⟩
      · exact .inr ⟨turned, method'.trans method, body'.trans body⟩
      · exact .inr ⟨turned, method', body'⟩

end Client

/-- An order that brings a response was led to it from the request that it is about. -/
lemma Order.leads_of_answer {o : Order} {n : Network} {response : Response}
    (came : o.answer n = .ok response) :
    ∃ r passed final, r.method = o.method ∧ r.body = o.body ∧
      o.client.Leads r n passed final response (o.after n) := by
  unfold answer Client.send at came
  unfold after Client.send
  rcases target : Client.target o.target with failure | ⟨url, user⟩
  · rw [target] at came
    cases came
  · rw [target] at came
    dsimp only at came ⊢
    obtain ⟨passed, final, leads⟩ := Client.leads_of_follow (Prod.ext came rfl)
    exact ⟨_, passed, final, rfl, rfl, leads⟩

end WorkspaceSchema.Http
