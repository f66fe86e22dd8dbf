import Continuity.Proofs.Document.Cache
import Continuity.Proofs.Report.Collector
import Continuity.Run.Desk

/-! # What hooks do to the desk

A hook is bounded by what its acts may be and by how it may end, whatever the answers to its
questions are. Such a bound carries every property of the desk that the permitted acts keep.
-/

namespace Continuity.Run

namespace Desk

/-- The desk without what is told of it, which no step of a run works on. -/
def core (d : Desk) : Desk := { d with events := [], journal := [], cancelRequested := false }

variable {d d' : Desk}

theorem collector_of_core (h : d'.core = d.core) : d'.collector = d.collector :=
  (congrArg Desk.collector h :)

theorem submitted_of_core (h : d'.core = d.core) : d'.submitted = d.submitted :=
  (congrArg Desk.submitted h :)

theorem shared_of_core (h : d'.core = d.core) : d'.shared = d.shared :=
  (congrArg Desk.shared h :)

theorem cache_of_core (h : d'.core = d.core) : d'.cache = d.cache :=
  (congrArg Desk.cache h :)

@[simp] theorem core_emit (listener : Listener) (e : Event) : (d.emit listener e).core = d.core :=
  rfl

@[simp] theorem core_enter (validator : String) (act : Act) :
    (d.enter validator act).core = d.core :=
  rfl

@[simp] theorem core_enterLoaded (validator : String) (r : Except Document.LoadFault Document) :
    (d.enterLoaded validator r).core = d.core := by
  cases r <;> rfl

end Desk

namespace Hook

variable {α β : Type}

/-- What a hook can do. -/
inductive Action where
  | report (issue : Issue)
  | emit (event : String) (payload : List (String × Value))
  | cancel
  | look
  | write (key : String) (entry : Entry)
  | load (path : Path)

/-- Whatever the answers are, the hook does only what it may and ends only as it may. -/
def Obeys (may : Action → Prop) (ends : Except HookFault α → Prop) : Hook α → Prop
  | .done outcome => ends outcome
  | .report issue next => may (.report issue) ∧ next.Obeys may ends
  | .emit event payload next => may (.emit event payload) ∧ next.Obeys may ends
  | .cancel next => may .cancel ∧ next.Obeys may ends
  | .look next => may .look ∧ ∀ shared, (next shared).Obeys may ends
  | .write key entry next => may (.write key entry) ∧ ∀ answer, (next answer).Obeys may ends
  | .load path next => may (.load path) ∧ ∀ answer, (next answer).Obeys may ends

/-- The hook writes no entry of the shared state. -/
def NeverWrites (hook : Hook α) : Prop :=
  hook.Obeys (fun | .write .. => False | _ => True) fun _ => True

/-- The hook reads no document. -/
def NeverLoads (hook : Hook α) : Prop :=
  hook.Obeys (fun | .load _ => False | _ => True) fun _ => True

/-- Acts that concern nobody but a validator: issues have its name, and no entry is written. -/
def Action.Own (validator : String) : Action → Prop
  | .report issue => issue.validator = validator
  | .write .. => False
  | _ => True

/-- What the hook does concerns nobody but a validator. -/
def Private (validator : String) (hook : Hook α) : Prop :=
  hook.Obeys (Action.Own validator) fun _ => True

/-- Of the shared state, nothing but the entry of a validator, and whether the state is frozen,
makes a difference to the hook. -/
def Heeds (validator : String) : Hook α → Prop
  | .done _ => True
  | .report _ next | .emit _ _ next | .cancel next => next.Heeds validator
  | .look next =>
    (∀ shared shared', shared.get? validator = shared'.get? validator →
      shared.frozen = shared'.frozen → next shared = next shared') ∧
    ∀ shared, (next shared).Heeds validator
  | .write _ _ next => ∀ answer, (next answer).Heeds validator
  | .load _ next => ∀ answer, (next answer).Heeds validator

/-- All issues have the name of a validator. -/
def Signs (validator : String) : Except HookFault (List Issue) → Prop
  | .ok issues => ∀ issue ∈ issues, issue.validator = validator
  | .error _ => True

theorem Obeys.mono {may may' : Action → Prop} {ends ends' : Except HookFault α → Prop}
    {hook : Hook α} (h : hook.Obeys may ends) (hmay : ∀ act, may act → may' act)
    (hends : ∀ outcome, ends outcome → ends' outcome) : hook.Obeys may' ends' := by
  induction hook with
  | done outcome => exact hends outcome h
  | report issue next ih => exact ⟨hmay _ h.1, ih h.2⟩
  | emit event payload next ih => exact ⟨hmay _ h.1, ih h.2⟩
  | cancel next ih => exact ⟨hmay _ h.1, ih h.2⟩
  | look next ih => exact ⟨hmay _ h.1, fun shared => ih shared (h.2 shared)⟩
  | write key entry next ih => exact ⟨hmay _ h.1, fun answer => ih answer (h.2 answer)⟩
  | load path next ih => exact ⟨hmay _ h.1, fun answer => ih answer (h.2 answer)⟩

theorem Obeys.true (hook : Hook α) : hook.Obeys (fun _ => True) fun _ => True := by
  induction hook with
  | done outcome => trivial
  | report issue next ih => exact ⟨trivial, ih⟩
  | emit event payload next ih => exact ⟨trivial, ih⟩
  | cancel next ih => exact ⟨trivial, ih⟩
  | look next ih => exact ⟨trivial, ih⟩
  | write key entry next ih => exact ⟨trivial, ih⟩
  | load path next ih => exact ⟨trivial, ih⟩

theorem Obeys.and {may may' : Action → Prop} {ends ends' : Except HookFault α → Prop}
    {hook : Hook α} (h : hook.Obeys may ends) (h' : hook.Obeys may' ends') :
    hook.Obeys (fun act => may act ∧ may' act) fun outcome => ends outcome ∧ ends' outcome := by
  induction hook with
  | done outcome => exact ⟨h, h'⟩
  | report issue next ih => exact ⟨⟨h.1, h'.1⟩, ih h.2 h'.2⟩
  | emit event payload next ih => exact ⟨⟨h.1, h'.1⟩, ih h.2 h'.2⟩
  | cancel next ih => exact ⟨⟨h.1, h'.1⟩, ih h.2 h'.2⟩
  | look next ih => exact ⟨⟨h.1, h'.1⟩, fun shared => ih shared (h.2 shared) (h'.2 shared)⟩
  | write key entry next ih =>
      exact ⟨⟨h.1, h'.1⟩, fun answer => ih answer (h.2 answer) (h'.2 answer)⟩
  | load path next ih => exact ⟨⟨h.1, h'.1⟩, fun answer => ih answer (h.2 answer) (h'.2 answer)⟩

theorem Obeys.bind {may : Action → Prop} {ends : Except HookFault α → Prop}
    {ends' : Except HookFault β → Prop} {hook : Hook α} {next : α → Hook β}
    (h : hook.Obeys may ends) (hok : ∀ a, ends (.ok a) → (next a).Obeys may ends')
    (hfault : ∀ fault, ends (.error fault) → ends' (.error fault)) :
    (hook.bind next).Obeys may ends' := by
  induction hook with
  | done outcome =>
      cases outcome with
      | ok a => exact hok a h
      | error fault => exact hfault fault h
  | report issue rest ih => exact ⟨h.1, ih h.2⟩
  | emit event payload rest ih => exact ⟨h.1, ih h.2⟩
  | cancel rest ih => exact ⟨h.1, ih h.2⟩
  | look rest ih => exact ⟨h.1, fun shared => ih shared (h.2 shared)⟩
  | write key entry rest ih => exact ⟨h.1, fun answer => ih answer (h.2 answer)⟩
  | load path rest ih => exact ⟨h.1, fun answer => ih answer (h.2 answer)⟩

/-- A hook ends as it may. -/
theorem Obeys.outcome {may : Action → Prop} {ends : Except HookFault α → Prop} {hook : Hook α}
    (h : hook.Obeys may ends) (host : Host) (d : Desk) : ends (hook.run host d).1 := by
  induction hook generalizing d with
  | done outcome => exact h
  | report issue next ih => exact ih h.2 _
  | emit event payload next ih => exact ih h.2 _
  | cancel next ih => exact ih h.2 _
  | look next ih => exact ih _ (h.2 _) _
  | write key entry next ih => exact ih _ (h.2 _) _
  | load path next ih => exact ih _ (h.2 _) _

/-- What the permitted acts keep of the desk, the hook keeps. -/
theorem Obeys.keeps {may : Action → Prop} {ends : Except HookFault α → Prop} {hook : Hook α}
    {host : Host} {K : Desk → Prop} (h : hook.Obeys may ends)
    (hcore : ∀ d d', d'.core = d.core → K d → K d')
    (hreport : ∀ issue d, may (.report issue) → K d → K (d.report host.validator issue))
    (hwrite : ∀ key entry d, may (.write key entry) → K d → K (d.write key entry).2)
    (hload : ∀ path d, may (.load path) → K d →
      K (d.load host.tree host.root (Path.resolve host.root path)).2)
    (d : Desk) (hd : K d) : K (hook.run host d).2 := by
  induction hook generalizing d with
  | done outcome => exact hd
  | report issue next ih => exact ih h.2 _ (hreport issue d h.1 hd)
  | emit event payload next ih => exact ih h.2 _ (hcore d _ (Desk.core_emit _ _) hd)
  | cancel next ih => exact ih h.2 _ (hcore d _ rfl hd)
  | look next ih => exact ih _ (h.2 _) _ (hcore d _ (Desk.core_enter _ _) hd)
  | write key entry next ih => exact ih _ (h.2 _) _ (hwrite key entry d h.1 hd)
  | load path next ih =>
      refine ih _ (h.2 _) _ (hcore _ _ (Desk.core_enterLoaded _ _) ?_)
      exact hload _ d h.1 hd

/-- A hook that never writes leaves the shared state as it is. -/
theorem NeverWrites.shared {hook : Hook α} (h : hook.NeverWrites) (host : Host) (d : Desk) :
    (hook.run host d).2.shared = d.shared := by
  apply h.keeps (K := fun d' => d'.shared = d.shared)
  · intro d₁ d₂ hcore hd
    rw [Desk.shared_of_core hcore, hd]
  · exact fun _ _ _ hd => hd
  · exact fun _ _ _ hmay _ => hmay.elim
  · exact fun _ _ _ hd => hd
  · rfl

/-- No hook freezes the shared state, or thaws it. -/
theorem run_frozen (hook : Hook α) (host : Host) (d : Desk) :
    (hook.run host d).2.shared.frozen = d.shared.frozen := by
  apply (Obeys.true hook).keeps (K := fun d' => d'.shared.frozen = d.shared.frozen)
  · intro d₁ d₂ hcore hd
    rw [Desk.shared_of_core hcore, hd]
  · exact fun _ _ _ hd => hd
  · intro key entry d' _ hd
    unfold Desk.write SharedState.set
    split
    next heq =>
      split at heq
      · cases heq
      · cases heq
        exact hd
    next => exact hd
  · exact fun _ _ _ hd => hd
  · rfl

/-- What a hook reads is what the files come to. -/
theorem run_genuine (hook : Hook α) (host : Host) (d : Desk)
    (hd : d.cache.Genuine host.tree host.root) :
    (hook.run host d).2.cache.Genuine host.tree host.root := by
  apply (Obeys.true hook).keeps (K := fun d => d.cache.Genuine host.tree host.root) _ _ _ _ d hd
  · intro d₁ d₂ hcore hd
    rwa [Desk.cache_of_core hcore]
  · exact fun _ _ _ hd => hd
  · intro key entry d' _ hd
    unfold Desk.write
    split <;> exact hd
  · exact fun path _ _ hd => (hd.load _).1

/-- What is recorded stays recorded. -/
theorem run_holds (hook : Hook α) (host : Host) (d : Desk) {v : String} {i : Issue}
    (hd : d.collector.holds v i = true) : (hook.run host d).2.collector.holds v i = true := by
  apply (Obeys.true hook).keeps (K := fun d => d.collector.holds v i = true) _ _ _ _ d hd
  · intro d₁ d₂ hcore hd
    rwa [Desk.collector_of_core hcore]
  · exact fun _ _ _ hd => Collector.holds_add hd
  · intro key entry d' _ hd
    unfold Desk.write
    split <;> exact hd
  · exact fun _ _ _ hd => hd

/-- A hook that never loads leaves the documents read as they are. -/
theorem NeverLoads.cache {hook : Hook α} (h : hook.NeverLoads) (host : Host) (d : Desk) :
    (hook.run host d).2.cache = d.cache := by
  apply h.keeps (K := fun d' => d'.cache = d.cache)
  · intro d₁ d₂ hcore hd
    rw [Desk.cache_of_core hcore, hd]
  · exact fun _ _ _ hd => hd
  · intro key entry d' _ hd
    unfold Desk.write
    split <;> exact hd
  · exact fun _ _ hmay _ => hmay.elim
  · rfl

end Hook

/-- Something is true of every hook of a validator. -/
structure Validator.Each (K : ∀ {α : Type}, Hook α → Prop) (v : Validator) : Prop where
  start : ∀ c, K (v.starting c)
  extract : ∀ hook, v.extract = some hook → ∀ c d, K (hook c d)
  merge : ∀ c parts, K (v.merging c parts)
  validate : ∀ hook, v.validate = some hook → ∀ c d, K (hook c d)
  validateProject : ∀ hook, v.validateProject = some hook → ∀ c ds, K (hook c ds)
  finish : ∀ c, K (v.finishing c)

theorem Validator.Each.mono {K L : ∀ {α : Type}, Hook α → Prop} {v : Validator} (h : v.Each K)
    (himp : ∀ {α : Type} (hook : Hook α), K hook → L hook) : v.Each L where
  start c := himp _ (h.start c)
  extract hook hhook c d := himp _ (h.extract hook hhook c d)
  merge c parts := himp _ (h.merge c parts)
  validate hook hhook c d := himp _ (h.validate hook hhook c d)
  validateProject hook hhook c ds := himp _ (h.validateProject hook hhook c ds)
  finish c := himp _ (h.finish c)

/-- What a validator does concerns nobody else: all its issues have its name, and it writes no
entry. -/
structure Validator.Discreet (v : Validator) : Prop where
  acts : v.Each (Hook.Private v.id)
  validate : ∀ hook, v.validate = some hook → ∀ c d,
    (hook c d).Obeys (fun _ => True) (Hook.Signs v.id)
  validateProject : ∀ hook, v.validateProject = some hook → ∀ c ds,
    (hook c ds).Obeys (fun _ => True) (Hook.Signs v.id)

end Continuity.Run
