import Mathlib.Data.List.Nodup
import Mathlib.Logic.Function.Basic
import WorkspaceSchema.Proofs.Provision.Dialogue
import WorkspaceSchema.Proofs.Provision.Store

/-!
# Many provisioners at once

Any number of provisioners share one store, each for a customer, a schema and a mode of its own.  The
list and the insertion of a provisioner are separate calls, and the calls of the others may come between
them.  The store deals with one call at a time.  It refuses to insert a name that the customer has, and
a call or its answer may get lost.

A `Scene` is the store together with what each party has said and still has to say, and a `Turn` lets
the store deal with the next call of one party.  `Settles` lists what the store may do with a call, and
`Standing` how far a party may have come, by what the store holds.  Other parties only add names, which
leaves every standing as it is (`Standing.mono`).  From this follows the invariant `Sound`, and from the
invariant that no name is created twice, however the turns follow each other.
-/

namespace WorkspaceSchema

/-- Whether an error says that what should be created exists. -/
def Directory.Error.isConflict : Directory.Error → Bool
  | .service _ code _ => code = 409
  | _ => false

namespace Store

/-- Any other error. -/
abbrev Mishap : Type :=
  { e : Directory.Error // e.isConflict = false }

/-- Whether a result is not a mishap. -/
def Smooth {α : Type} (result : Except Directory.Error α) : Prop :=
  ∀ e, result = .error e → e.isConflict = true

lemma smooth_ok {α : Type} (a : α) : Smooth (.ok a) :=
  fun _ fails => nomatch fails

/-- An error is a mishap whatever was asked for. -/
lemma Smooth.of_error {α β : Type} {e : Directory.Error} (smooth : Smooth (.error e : Except _ α)) :
    Smooth (.error e : Except _ β) := by
  rintro e' ⟨⟩
  exact smooth e rfl

/-- What becomes of a call. -/
inductive Fate where
  /-- It is dealt with and answered.  An insertion may be answered with any schema, and a refusal may
  give any status. -/
  | answered (reply : Option Schema := none) (status : Directory.Status := {})
      (headers : Http.Headers := [])
  /-- It gets lost on the way. -/
  | lost (why : Mishap)
  /-- It is dealt with, and the answer gets lost on the way. -/
  | unanswered (why : Mishap)

/-- Whether a call and its answer arrive. -/
def Fate.arrives : Fate → Bool
  | .answered .. => true
  | _ => false

/-- Deals with a call.  A name that the customer has is not inserted again. -/
def answer (s : Store) (reply : Option Schema) (status : Directory.Status) (headers : Http.Headers) :
    (call : Call) → Except Directory.Error call.Answer × Store
  | .list customer => (.ok (s.schemas customer), s)
  | .insert customer schema =>
    if schema.schemaName ∈ s.names customer then (.error (.service status 409 headers), s)
    else (.ok (reply.getD (s.take customer schema).1), (s.take customer schema).2)

/-- Lets a call have its fate. -/
def settle (s : Store) (call : Call) : Fate → Except Directory.Error call.Answer × Store
  | .answered reply status headers => s.answer reply status headers call
  | .lost why => (.error why, s)
  | .unanswered why => (.error why, (s.answer none {} [] call).2)

end Store

/-- Whether a dialogue ends without a mishap as long as there is none in the answers. -/
def Dialogue.Smooth {α : Type} : Dialogue α → Prop
  | .done result => Store.Smooth result
  | .asks _ next => ∀ answer, Store.Smooth answer → (next answer).Smooth

/-- A provisioner that takes part, and the schema that it provides. -/
structure Party where
  provisioner : Provisioner
  schema : Schema

namespace Party

variable (p : Party)

/-- The customer that a party is concerned with. -/
def customer : String :=
  p.provisioner.customer

/-- The name that a party is concerned with. -/
def name : String :=
  p.schema.schemaName

/-- Whether a party inserts what is missing. -/
def isEarnest : Bool :=
  !p.provisioner.dryRun

/-- The call for the list. -/
def listing : Store.Call :=
  .list p.customer

/-- The call for the insertion. -/
def insertion : Store.Call :=
  .insert p.customer p.schema

/-- All that a party has to say. -/
def dialogue : Dialogue Outcome :=
  p.provisioner.ensure Dialogue.service p.schema

/-- A party asks for the list first. -/
lemma dialogue_eq : p.dialogue = .asks p.listing (p.provisioner.afterList p.schema) :=
  p.provisioner.ensure_dialogue p.schema

/-- The only errors of a party are those of the store. -/
lemma smooth_dialogue : p.dialogue.Smooth := by
  rw [dialogue_eq]
  intro answer smooth
  cases answer with
  | error e => exact smooth.of_error
  | ok existing =>
    change Dialogue.Smooth (ite _ _ (ite _ _ _))
    split
    · exact Store.smooth_ok _
    · split
      · exact Store.smooth_ok _
      · intro answer smooth
        cases answer with
        | error e => exact smooth.of_error
        | ok created => exact Store.smooth_ok _

end Party

/-- What a party has said and still has to say. -/
structure Talk where
  /-- The calls that the store was done with, each with the store before it, the latest last. -/
  past : List (Store.Call × Store) := []
  ahead : Dialogue Outcome

namespace Talk

/-- The calls that were sent: those that the store was done with, and the one that waits for it. -/
def calls (t : Talk) : List Store.Call :=
  t.past.map (·.1) ++ match t.ahead with
    | .done _ => []
    | .asks call _ => [call]

/-- How a talk ended, if it did. -/
def result? (t : Talk) : Option (Except Directory.Error Outcome) :=
  match t.ahead with
  | .done result => some result
  | .asks _ _ => none

/-- A talk that ended has nothing ahead. -/
lemma ahead_of_result? {t : Talk} {result : Except Directory.Error Outcome}
    (ended : t.result? = some result) : t.ahead = .done result := by
  unfold result? at ended
  split at ended
  case h_1 result' done =>
    cases ended
    exact done
  case h_2 => cases ended

end Talk

/-- The store, and how far each party is. -/
structure Scene (ι : Type) where
  store : Store
  talks : ι → Talk

/-- Lets the store deal with the next call of a party. -/
structure Turn (ι : Type) where
  party : ι
  fate : Store.Fate := .answered

namespace Scene

variable {ι : Type}

/-- The scene in which nobody has been heard. -/
def start (store : Store) (parties : ι → Party) : Scene ι where
  store := store
  talks i := { ahead := (parties i).dialogue }

variable [DecidableEq ι]

/-- A scene after one turn.  A party that is done has no more turns. -/
def play (scene : Scene ι) (t : Turn ι) : Scene ι :=
  match (scene.talks t.party).ahead with
  | .done _ => scene
  | .asks call next =>
    { store := (scene.store.settle call t.fate).2
      talks := Function.update scene.talks t.party
        { past := (scene.talks t.party).past ++ [(call, scene.store)]
          ahead := next (scene.store.settle call t.fate).1 } }

/-- A scene after some turns. -/
def playAll (scene : Scene ι) (turns : List (Turn ι)) : Scene ι :=
  turns.foldl play scene

end Scene

/-! ### One call -/

namespace Store

/-- What a store may do with a call. -/
inductive Settles (s : Store) : (call : Call) → Except Directory.Error call.Answer → Store → Prop where
  | failed {call : Call} {e : Directory.Error} (other : e.isConflict = false) :
      Settles s call (.error e) s
  | listed {customer : String} : Settles s (.list customer) (.ok (s.schemas customer)) s
  | refused {customer : String} {schema : Schema} {e : Directory.Error}
      (present : schema.schemaName ∈ s.names customer) (conflict : e.isConflict = true) :
      Settles s (.insert customer schema) (.error e) s
  | inserted {customer : String} {schema : Schema} {answer : Except Directory.Error Schema}
      (absent : schema.schemaName ∉ s.names customer)
      (other : ∀ e, answer = .error e → e.isConflict = false) :
      Settles s (.insert customer schema) answer (s.take customer schema).2

/-- The insertion of a name that the customer has is refused. -/
lemma answer_insert_of_mem {s : Store} {customer : String} {schema : Schema}
    (present : schema.schemaName ∈ s.names customer) (reply : Option Schema)
    (status : Directory.Status) (headers : Http.Headers) :
    s.answer reply status headers (.insert customer schema) =
      (.error (.service status 409 headers), s) :=
  if_pos present

/-- A schema of another name is taken. -/
lemma answer_insert_of_not_mem {s : Store} {customer : String} {schema : Schema}
    (absent : schema.schemaName ∉ s.names customer) (reply : Option Schema)
    (status : Directory.Status) (headers : Http.Headers) :
    s.answer reply status headers (.insert customer schema) =
      (.ok (reply.getD (s.take customer schema).1), (s.take customer schema).2) :=
  if_neg absent

/-- A store does one of these things with a call. -/
lemma settles (s : Store) (call : Call) (fate : Fate) :
    Settles s call (s.settle call fate).1 (s.settle call fate).2 := by
  cases call with
  | list customer =>
    cases fate with
    | answered reply status headers => exact .listed
    | lost why => exact .failed why.2
    | unanswered why => exact .failed why.2
  | insert customer schema =>
    by_cases present : schema.schemaName ∈ s.names customer
    · cases fate with
      | answered reply status headers =>
        change Settles s _ (s.answer reply status headers _).1 (s.answer reply status headers _).2
        rw [answer_insert_of_mem present]
        exact .refused present rfl
      | lost why => exact .failed why.2
      | unanswered why =>
        change Settles s _ _ (s.answer none {} [] _).2
        rw [answer_insert_of_mem present]
        exact .failed why.2
    · cases fate with
      | answered reply status headers =>
        change Settles s _ (s.answer reply status headers _).1 (s.answer reply status headers _).2
        rw [answer_insert_of_not_mem present]
        exact .inserted present (by simp)
      | lost why => exact .failed why.2
      | unanswered why =>
        change Settles s _ _ (s.answer none {} [] _).2
        rw [answer_insert_of_not_mem present]
        refine .inserted present fun e same => ?_
        rw [← Except.error.inj same]
        exact why.2

/-- When a call and its answer arrive, there is no mishap. -/
lemma smooth_settle (s : Store) (call : Call) {fate : Fate} (arrives : fate.arrives = true) :
    Smooth (s.settle call fate).1 := by
  intro e fails
  cases fate with
  | lost why => cases arrives
  | unanswered why => cases arrives
  | answered reply status headers =>
    change (s.answer reply status headers call).1 = _ at fails
    cases call with
    | list customer => cases fails
    | insert customer schema =>
      by_cases present : schema.schemaName ∈ s.names customer
      · rw [answer_insert_of_mem present] at fails
        cases fails
        rfl
      · rw [answer_insert_of_not_mem present] at fails
        cases fails

/-- A schema that is taken adds its name for its customer. -/
lemma names_take (s : Store) (k customer : String) (schema : Schema) :
    (s.take customer schema).2.names k =
      if k = customer then s.names customer ++ [schema.schemaName] else s.names k := by
  unfold names
  rw [schemas_take]
  split
  · rw [List.map_append]
    rfl
  · rfl

/-- The names of a customer stay. -/
lemma Settles.names_subset {s s' : Store} {call : Call} {answer : Except Directory.Error call.Answer}
    (h : Settles s call answer s') (k : String) : s.names k ⊆ s'.names k := by
  cases h with
  | failed other => exact List.Subset.refl _
  | listed => exact List.Subset.refl _
  | refused present conflict => exact List.Subset.refl _
  | @inserted customer schema answer absent other =>
    rw [names_take]
    split
    case isTrue same =>
      rw [same]
      exact List.subset_append_left _ _
    case isFalse => exact List.Subset.refl _

/-- A name that is not from before is that of the insertion. -/
lemma Settles.mem_names {s s' : Store} {call : Call} {answer : Except Directory.Error call.Answer}
    (h : Settles s call answer s') {k n : String} (held : n ∈ s'.names k) :
    n ∈ s.names k ∨ ∃ schema, call = .insert k schema ∧ schema.schemaName = n := by
  cases h with
  | failed other => exact .inl held
  | listed => exact .inl held
  | refused present conflict => exact .inl held
  | @inserted customer schema answer absent other =>
    rw [names_take] at held
    split at held
    case isTrue same =>
      subst same
      rcases List.mem_append.mp held with before | new
      · exact .inl before
      · exact .inr ⟨schema, rfl, (List.mem_singleton.mp new).symm⟩
    case isFalse => exact .inl held

/-- No name comes to occur twice. -/
lemma Settles.nodup {s s' : Store} {call : Call} {answer : Except Directory.Error call.Answer}
    (h : Settles s call answer s') (distinct : ∀ k, (s.names k).Nodup) (k : String) :
    (s'.names k).Nodup := by
  cases h with
  | failed other => exact distinct k
  | listed => exact distinct k
  | refused present conflict => exact distinct k
  | @inserted customer schema answer absent other =>
    rw [names_take]
    split
    · have apart : ∀ n ∈ s.names customer, n ≠ schema.schemaName := by
        rintro n held rfl
        exact absent held
      exact List.nodup_append.mpr ⟨distinct customer, by simp, by simpa using apart⟩
    · exact distinct k

end Store

/-! ### One party -/

/-- How far a party has come, and what that says about the names that its customer had in the first
store and has now. -/
inductive Standing (p : Party) (first now : Store) : Talk → Prop where
  | begun : Standing p first now ⟨[], .asks p.listing (p.provisioner.afterList p.schema)⟩
  | unlisted {s : Store} {e : Directory.Error} (other : e.isConflict = false) :
      Standing p first now ⟨[(p.listing, s)], .done (.error e)⟩
  | present {s : Store} (listed : p.name ∈ s.names p.customer) (held : p.name ∈ now.names p.customer) :
      Standing p first now ⟨[(p.listing, s)], .done (.ok .alreadyExists)⟩
  | skipped {s : Store} (dry : p.isEarnest = false) :
      Standing p first now ⟨[(p.listing, s)], .done (.ok .dryRun)⟩
  | inserting {s : Store} (earnest : p.isEarnest = true) :
      Standing p first now ⟨[(p.listing, s)], .asks p.insertion Provisioner.afterInsertion⟩
  | uninserted {s s' : Store} {e : Directory.Error} (earnest : p.isEarnest = true)
      (other : e.isConflict = false) :
      Standing p first now ⟨[(p.listing, s), (p.insertion, s')], .done (.error e)⟩
  | refused {s s' : Store} {e : Directory.Error} (earnest : p.isEarnest = true)
      (held : p.name ∈ now.names p.customer) :
      Standing p first now ⟨[(p.listing, s), (p.insertion, s')], .done (.error e)⟩
  | created {s s' : Store} {schema : Schema} (earnest : p.isEarnest = true)
      (absent : p.name ∉ first.names p.customer) (held : p.name ∈ now.names p.customer) :
      Standing p first now ⟨[(p.listing, s), (p.insertion, s')], .done (.ok (.created schema))⟩

namespace Standing

variable {p : Party} {first now now' : Store} {t : Talk}

/-- A standing does not change when names are added. -/
lemma mono (h : Standing p first now t) (kept : now.names p.customer ⊆ now'.names p.customer) :
    Standing p first now' t := by
  cases h with
  | begun => exact .begun
  | unlisted other => exact .unlisted other
  | present listed held => exact .present listed (kept held)
  | skipped dry => exact .skipped dry
  | inserting earnest => exact .inserting earnest
  | uninserted earnest other => exact .uninserted earnest other
  | refused earnest held => exact .refused earnest (kept held)
  | created earnest absent held => exact .created earnest absent (kept held)

/-- A party goes on from one standing to the next. -/
lemma step (h : Standing p first now t) {call : Store.Call}
    {next : Except Directory.Error call.Answer → Dialogue Outcome} (waits : t.ahead = .asks call next)
    (kept : first.names p.customer ⊆ now.names p.customer)
    {answer : Except Directory.Error call.Answer} (settles : Store.Settles now call answer now') :
    Standing p first now' ⟨t.past ++ [(call, now)], next answer⟩ := by
  cases h with
  | begun =>
    obtain ⟨rfl, same⟩ := Dialogue.asks.inj waits
    obtain rfl := eq_of_heq same
    cases settles with
    | failed other => exact .unlisted other
    | listed =>
      change Standing p first now ⟨[(p.listing, now)], ite _ _ (ite _ _ _)⟩
      split
      case isTrue listed => exact .present listed listed
      case isFalse absent =>
        split
        case isTrue dry => exact .skipped (by simpa [Party.isEarnest] using dry)
        case isFalse earnest => exact .inserting (by simpa [Party.isEarnest] using earnest)
  | inserting earnest =>
    obtain ⟨rfl, same⟩ := Dialogue.asks.inj waits
    obtain rfl := eq_of_heq same
    have held : p.name ∈ (now.take p.customer p.schema).2.names p.customer := by
      rw [Store.names_take, if_pos rfl]
      exact List.mem_append_right _ (List.mem_singleton.mpr rfl)
    cases settles with
    | failed other => exact .uninserted earnest other
    | refused present conflict => exact .refused earnest present
    | @inserted customer schema answer absent other =>
      cases answer with
      | error e => exact .uninserted earnest (other e rfl)
      | ok schema => exact .created earnest (fun before => absent (kept before)) held
  | _ => cases waits

/-- Only an earnest party asks for an insertion, and then for its own. -/
lemma of_inserts (h : Standing p first now t) {k : String} {schema : Schema}
    {next : Except Directory.Error Schema → Dialogue Outcome}
    (waits : t.ahead = .asks (.insert k schema) next) :
    p.isEarnest = true ∧ p.customer = k ∧ p.schema = schema := by
  cases h with
  | inserting earnest =>
    cases waits
    exact ⟨earnest, rfl, rfl⟩
  | _ => cases waits

/-- A party creates its schema only when the customer lacks the name. -/
lemma absent_of_creates (h : Standing p first now t) {call : Store.Call}
    {next : Except Directory.Error call.Answer → Dialogue Outcome} (waits : t.ahead = .asks call next)
    {answer : Except Directory.Error call.Answer} (settles : Store.Settles now call answer now')
    {schema : Schema} (creates : next answer = .done (.ok (.created schema))) :
    p.name ∉ now.names p.customer := by
  cases h with
  | begun =>
    obtain ⟨rfl, same⟩ := Dialogue.asks.inj waits
    obtain rfl := eq_of_heq same
    cases settles with
    | failed other => cases creates
    | listed =>
      change ite _ _ (ite _ _ _) = _ at creates
      split at creates
      · cases creates
      · split at creates <;> cases creates
  | inserting earnest =>
    obtain ⟨rfl, same⟩ := Dialogue.asks.inj waits
    obtain rfl := eq_of_heq same
    cases settles with
    | failed other => cases creates
    | refused present conflict => cases creates
    | inserted absent other => exact absent
  | _ => cases waits

/-- What a party created is new, and is there. -/
lemma of_created (h : Standing p first now t) {schema : Schema}
    (created : t.result? = some (.ok (.created schema))) :
    p.name ∉ first.names p.customer ∧ p.name ∈ now.names p.customer := by
  cases h with
  | created earnest absent held => exact ⟨absent, held⟩
  | _ => cases created

/-- A party sends one call for the list, and at most one for the insertion, if it is in earnest. -/
lemma calls_eq (h : Standing p first now t) :
    t.calls = [p.listing] ∨ p.isEarnest = true ∧ t.calls = [p.listing, p.insertion] := by
  cases h with
  | begun => exact .inl rfl
  | unlisted => exact .inl rfl
  | present => exact .inl rfl
  | skipped => exact .inl rfl
  | inserting earnest => exact .inr ⟨earnest, rfl⟩
  | uninserted earnest => exact .inr ⟨earnest, rfl⟩
  | refused earnest => exact .inr ⟨earnest, rfl⟩
  | created earnest => exact .inr ⟨earnest, rfl⟩

/-- A party says that the schema exists only if the name was in the store when its list was made. -/
lemma of_alreadyExists (h : Standing p first now t) (found : t.result? = some (.ok .alreadyExists)) :
    ∃ s, t.past = [(p.listing, s)] ∧ p.name ∈ s.names p.customer := by
  cases h with
  | present listed held => exact ⟨_, rfl, listed⟩
  | _ => cases found

/-- An earnest party that ends without a mishap leaves the name in the store. -/
lemma held_of_smooth (h : Standing p first now t) (earnest : p.isEarnest = true)
    {result : Except Directory.Error Outcome} (ended : t.result? = some result)
    (smooth : Store.Smooth result) : p.name ∈ now.names p.customer := by
  cases h with
  | present listed held => exact held
  | refused earnest held => exact held
  | created earnest absent held => exact held
  | skipped dry =>
    rw [dry] at earnest
    cases earnest
  | unlisted other =>
    cases ended
    rw [smooth _ rfl] at other
    cases other
  | uninserted earnest other =>
    cases ended
    rw [smooth _ rfl] at other
    cases other
  | begun => cases ended
  | inserting => cases ended

end Standing

/-! ### Many parties -/

namespace Scene

variable {ι : Type}

/-- What holds of every scene that comes of turns. -/
structure Sound (parties : ι → Party) (first : Store) (scene : Scene ι) : Prop where
  kept : ∀ k, first.names k ⊆ scene.store.names k
  wanted : ∀ k, ∀ n ∈ scene.store.names k, n ∈ first.names k ∨
    ∃ i, (parties i).isEarnest = true ∧ (parties i).customer = k ∧ (parties i).name = n
  distinct : ∀ k, (scene.store.names k).Nodup
  standing : ∀ i, Standing (parties i) first scene.store (scene.talks i)
  once : ∀ i j schema schema', (scene.talks i).result? = some (.ok (.created schema)) →
    (scene.talks j).result? = some (.ok (.created schema')) →
    (parties i).customer = (parties j).customer → (parties i).name = (parties j).name → i = j

variable {parties : ι → Party} {first : Store} {scene : Scene ι}

/-- A party that has not been heard asks for the list. -/
lemma talks_start (first : Store) (parties : ι → Party) (i : ι) :
    (start first parties).talks i =
      ⟨[], .asks (parties i).listing ((parties i).provisioner.afterList (parties i).schema)⟩ :=
  congrArg (Talk.mk []) (parties i).dialogue_eq

/-- The invariant holds before anybody has been heard. -/
lemma sound_start (distinct : ∀ k, (first.names k).Nodup) : Sound parties first (start first parties) where
  kept k := List.Subset.refl _
  wanted k n held := .inl held
  distinct := distinct
  standing i := by
    rw [talks_start]
    exact .begun
  once i j schema schema' created := by
    rw [talks_start] at created
    cases created

variable [DecidableEq ι]

/-- A turn concerns the party that has it. -/
lemma talks_play_of_ne {t : Turn ι} {i : ι} (other : i ≠ t.party) :
    (scene.play t).talks i = scene.talks i := by
  unfold play
  split
  · rfl
  · exact Function.update_of_ne other _ _

/-- A party that waits for the store gets its answer when it has a turn. -/
lemma play_of_asks {t : Turn ι} {call : Store.Call}
    {next : Except Directory.Error call.Answer → Dialogue Outcome}
    (waits : (scene.talks t.party).ahead = .asks call next) :
    (scene.play t).store = (scene.store.settle call t.fate).2 ∧
      (scene.play t).talks t.party =
        ⟨(scene.talks t.party).past ++ [(call, scene.store)],
          next (scene.store.settle call t.fate).1⟩ := by
  unfold play
  rw [waits]
  exact ⟨rfl, Function.update_self _ _ _⟩

/-- Nothing happens in a turn of a party that is done. -/
lemma play_of_done {t : Turn ι} {result : Except Directory.Error Outcome}
    (ended : (scene.talks t.party).ahead = .done result) : scene.play t = scene := by
  unfold play
  rw [ended]

/-- One turn keeps the invariant. -/
lemma Sound.play (h : Sound parties first scene) (t : Turn ι) : Sound parties first (scene.play t) := by
  cases waits : (scene.talks t.party).ahead with
  | done result =>
    rw [play_of_done waits]
    exact h
  | asks call next =>
    have settles := scene.store.settles call t.fate
    obtain ⟨after, said⟩ := play_of_asks waits
    rw [← after] at settles
    have kept (k : String) : first.names k ⊆ (scene.play t).store.names k :=
      List.Subset.trans (h.kept k) (settles.names_subset k)
    refine ⟨kept, ?wanted, settles.nodup h.distinct, ?standing, ?once⟩
    case wanted =>
      intro k n held
      rcases settles.mem_names held with before | ⟨schema, rfl, rfl⟩
      · exact h.wanted k n before
      · obtain ⟨earnest, rfl, rfl⟩ := (h.standing t.party).of_inserts waits
        exact .inr ⟨t.party, earnest, rfl, rfl⟩
    case standing =>
      intro i
      by_cases turn : i = t.party
      · rw [turn, said]
        exact (h.standing t.party).step waits (h.kept _) settles
      · rw [talks_play_of_ne turn]
        exact (h.standing i).mono (settles.names_subset _)
    case once =>
      -- Whoever created the name before left it in the store, so that it cannot be created now.
      have apart {i : ι} {schema schema' : Schema} (turn : i ≠ t.party)
          (before : ((scene.play t).talks i).result? = some (.ok (.created schema)))
          (new : ((scene.play t).talks t.party).result? = some (.ok (.created schema')))
          (customers : (parties i).customer = (parties t.party).customer)
          (names : (parties i).name = (parties t.party).name) : False := by
        rw [talks_play_of_ne turn] at before
        rw [said] at new
        have absent :=
          (h.standing t.party).absent_of_creates waits settles (Talk.ahead_of_result? new)
        have held := ((h.standing i).of_created before).2
        rw [customers, names] at held
        exact absent held
      intro i j schema schema' created created' customers names
      by_cases turn : i = t.party <;> by_cases turn' : j = t.party
      · rw [turn, turn']
      · subst turn
        exact (apart turn' created' created customers.symm names.symm).elim
      · subst turn'
        exact (apart turn created created' customers names).elim
      · rw [talks_play_of_ne turn] at created
        rw [talks_play_of_ne turn'] at created'
        exact h.once i j schema schema' created created' customers names

/-- Any number of turns keep the invariant. -/
lemma Sound.playAll (h : Sound parties first scene) (turns : List (Turn ι)) :
    Sound parties first (scene.playAll turns) := by
  induction turns generalizing scene with
  | nil => exact h
  | cons t turns ih => exact ih (h.play t)

/-- Each turn of a party is one answer. -/
lemma within_play {i : ι} {n m : Nat} {t : Turn ι} (within : (scene.talks i).ahead.Within n)
    (fewer : n ≤ m + [t].countP fun t => t.party = i) : ((scene.play t).talks i).ahead.Within m := by
  by_cases turn : i = t.party
  · subst turn
    cases waits : (scene.talks t.party).ahead with
    | done result =>
      rw [play_of_done waits, waits]
      cases m <;> trivial
    | asks call next =>
      rw [(play_of_asks waits).2]
      rw [waits] at within
      cases n with
      | zero => exact within.elim
      | succ n => exact (within _).mono (by simpa using fewer)
  · rw [talks_play_of_ne turn]
    exact within.mono (by simpa [Ne.symm turn] using fewer)

/-- With as many turns as answers are needed at most, a party is done. -/
lemma within_playAll {i : ι} {n m : Nat} {turns : List (Turn ι)}
    (within : (scene.talks i).ahead.Within n)
    (fewer : n ≤ m + turns.countP fun t => t.party = i) :
    ((scene.playAll turns).talks i).ahead.Within m := by
  induction turns generalizing scene n with
  | nil => exact within.mono (by simpa using fewer)
  | cons t turns ih =>
    refine ih (n := m + turns.countP fun t => t.party = i) (within_play within ?_) (Nat.le_refl _)
    rw [List.countP_cons] at fewer
    rw [List.countP_singleton]
    omega

/-- A party meets no mishap in a turn in which its call and the answer arrive. -/
lemma smooth_play {i : ι} {t : Turn ι} (smooth : (scene.talks i).ahead.Smooth)
    (arrives : t.party = i → t.fate.arrives = true) : ((scene.play t).talks i).ahead.Smooth := by
  by_cases turn : i = t.party
  · subst turn
    cases waits : (scene.talks t.party).ahead with
    | done result =>
      rw [play_of_done waits]
      exact smooth
    | asks call next =>
      rw [(play_of_asks waits).2]
      rw [waits] at smooth
      exact smooth _ (scene.store.smooth_settle call (arrives rfl))
  · rw [talks_play_of_ne turn]
    exact smooth

/-- A party meets no mishap when all its calls and their answers arrive. -/
lemma smooth_playAll {i : ι} {turns : List (Turn ι)} (smooth : (scene.talks i).ahead.Smooth)
    (arrive : ∀ t ∈ turns, t.party = i → t.fate.arrives = true) :
    ((scene.playAll turns).talks i).ahead.Smooth := by
  induction turns generalizing scene with
  | nil => exact smooth
  | cons t turns ih =>
    exact ih (smooth_play smooth (arrive t List.mem_cons_self))
      fun t' later => arrive t' (List.mem_cons_of_mem _ later)

/-- Two turns in which calls and answers arrive bring a party to an end without a mishap. -/
lemma smooth_of_arrives {store : Store} {i : ι} {turns : List (Turn ι)}
    (enough : 2 ≤ turns.countP fun t => t.party = i)
    (arrive : ∀ t ∈ turns, t.party = i → t.fate.arrives = true) :
    ∃ result, (((start store parties).playAll turns).talks i).result? = some result ∧
      Store.Smooth result := by
  have within : (((start store parties).playAll turns).talks i).ahead.Within 0 :=
    within_playAll ((parties i).provisioner.within_ensure_dialogue _) (by omega)
  have smooth : (((start store parties).playAll turns).talks i).ahead.Smooth :=
    smooth_playAll (parties i).smooth_dialogue arrive
  obtain ⟨result, ended⟩ := within.exists_done
  rw [ended] at smooth
  refine ⟨result, ?_, smooth⟩
  unfold Talk.result?
  rw [ended]

/-- However the calls of any number of provisioners come in, at most one of them creates a name for a
customer, and none does when the name was there.  Each sends one call for the list and at most one for
the insertion, none in a dry run.  Whoever finds the schema has it in the list.  The name of an earnest
provisioner that ends without a mishap occurs once in the end, and two turns without a mishap bring it
there.  No other names come up, and none occurs twice. -/
theorem parties_create_once {store : Store} (distinct : ∀ k, (store.names k).Nodup)
    (parties : ι → Party) (turns : List (Turn ι)) :
    let scene := (start store parties).playAll turns
    (∀ i j schema schema', (scene.talks i).result? = some (.ok (.created schema)) →
      (scene.talks j).result? = some (.ok (.created schema')) →
      (parties i).customer = (parties j).customer → (parties i).name = (parties j).name → i = j) ∧
    (∀ i schema, (scene.talks i).result? = some (.ok (.created schema)) →
      (parties i).name ∉ store.names (parties i).customer) ∧
    (∀ i, (scene.talks i).calls = [(parties i).listing] ∨
      (parties i).isEarnest = true ∧
        (scene.talks i).calls = [(parties i).listing, (parties i).insertion]) ∧
    (∀ i, (scene.talks i).result? = some (.ok .alreadyExists) →
      ∃ s, (scene.talks i).past = [((parties i).listing, s)] ∧
        (parties i).name ∈ s.names (parties i).customer) ∧
    (∀ i result, (parties i).isEarnest = true → (scene.talks i).result? = some result →
      Store.Smooth result →
      (scene.store.names (parties i).customer).count (parties i).name = 1) ∧
    (∀ i, 2 ≤ turns.countP (fun t => t.party = i) →
      (∀ t ∈ turns, t.party = i → t.fate.arrives = true) →
      ∃ result, (scene.talks i).result? = some result ∧ Store.Smooth result) ∧
    (∀ k, ∀ n ∈ scene.store.names k, n ∈ store.names k ∨
      ∃ i, (parties i).isEarnest = true ∧ (parties i).customer = k ∧ (parties i).name = n) ∧
    ∀ k, (scene.store.names k).Nodup := by
  intro scene
  have sound : Sound parties store scene := (sound_start distinct).playAll turns
  refine ⟨sound.once, ?absent, ?calls, ?found, ?held, ?ended, sound.wanted, sound.distinct⟩
  case absent => exact fun i schema created => ((sound.standing i).of_created created).1
  case calls => exact fun i => (sound.standing i).calls_eq
  case found => exact fun i found => (sound.standing i).of_alreadyExists found
  case held =>
    intro i result earnest ended smooth
    have held := (sound.standing i).held_of_smooth earnest ended smooth
    exact List.count_eq_one_of_mem (sound.distinct _) held
  case ended => exact fun i enough arrive => smooth_of_arrives enough arrive

/-- Two provisioners that want the same. -/
def rivals (_ : Bool) : Party where
  provisioner := { customer := "c" }
  schema := { schemaName := "S" }

/-- Both of them hear that the schema is missing before one of them inserts it. -/
def race : List (Turn Bool) :=
  [{ party := true }, { party := false }, { party := false }, { party := true }]

/-- One of the two creates the schema, and the other one is told of a conflict. -/
theorem race_creates_once :
    (∀ k, (({} : Store).names k).Nodup) ∧
    (((start {} rivals).playAll race).talks false).result? =
      some (.ok (.created { schemaName := "S", schemaId := some "id-1" })) ∧
    (((start {} rivals).playAll race).talks true).result? = some (.error (.service {} 409 [])) ∧
    (((start {} rivals).playAll race).store.names "c").count "S" = 1 := by
  have distinct : ∀ k, (({} : Store).names k).Nodup := fun k => List.nodup_nil
  have refused : (((start {} rivals).playAll race).talks true).result? =
      some (.error (.service {} 409 [])) := rfl
  obtain ⟨-, -, -, -, held, -⟩ := parties_create_once distinct rivals race
  refine ⟨distinct, rfl, refused, held true _ rfl refused ?_⟩
  rintro e same
  cases same
  rfl

end Scene

end WorkspaceSchema
