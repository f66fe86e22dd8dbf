import Continuity.Proofs.Run.Step

/-! # Two runs side by side

Two runs are compared step by step. One of them may take steps that the other does not take, and
nothing is said where one of them fails or is to be cancelled.
-/

namespace Continuity.Run.Step

variable {α β γ δ : Type} {p q : Progress}

/-- From two progresses, two steps come to what `R` allows, if both succeed. -/
def Both (left : Step α) (right : Step β) (R : α → Progress → β → Progress → Prop)
    (p q : Progress) : Prop :=
  ∀ a p' b q', left.exec p = (.ok a, p') → right.exec q = (.ok b, q') → R a p' b q'

/-- Something is true of two progresses that are not to be cancelled. -/
def UnlessCancelled (R : Progress → Progress → Prop) (p q : Progress) : Prop :=
  p.cancelled = true ∨ q.cancelled = true ∨ R p q

/-- Two loops have come to their ends, or one was left as its run is to be cancelled. -/
def BothEnded (R : Progress → Progress → Prop) (all : Bool) (p : Progress) (all' : Bool)
    (q : Progress) : Prop :=
  all = false ∧ p.cancelled = true ∨ all' = false ∧ q.cancelled = true ∨
    all = true ∧ all' = true ∧ R p q

section Rules

variable {left : Step α} {right : Step β} {R : α → Progress → β → Progress → Prop}

theorem Both.of_wp
    (h : left.wp (fun a p' => right.wp (R a p') (fun _ _ => True) q) (fun _ _ => True) p) :
    Both left right R p q := by
  intro a p' b q' hleft hright
  simpa only [wp, hleft, hright] using h

theorem Both.of_left (h : left.wp (fun a p' => ∀ b q', R a p' b q') (fun _ _ => True) p) :
    Both left right R p q := by
  intro a p' b q' hleft _
  simp only [wp, hleft] at h
  exact h b q'

theorem Both.of_right (h : right.wp (fun b q' => ∀ a p', R a p' b q') (fun _ _ => True) q) :
    Both left right R p q := by
  intro a p' b q' _ hright
  simp only [wp, hright] at h
  exact h a p'

theorem Both.mono {R' : α → Progress → β → Progress → Prop} (h : Both left right R p q)
    (hR : ∀ a p' b q', R a p' b q' → R' a p' b q') : Both left right R' p q :=
  fun a p' b q' ha hb => hR a p' b q' (h a p' b q' ha hb)

theorem Both.pure {a : α} {b : β} (h : R a p b q) : Both (pure a) (pure b) R p q :=
  .of_wp h

theorem Both.modify {R : Unit → Progress → Unit → Progress → Prop} {f g : Progress → Progress}
    (h : R () (f p) () (g q)) : Both (modify f) (modify g) R p q :=
  .of_wp h

theorem exec_bind_ok {next : α → Step γ} {c : γ} {r : Progress}
    (h : (left >>= next).exec p = (.ok c, r)) :
    ∃ a p', left.exec p = (.ok a, p') ∧ (next a).exec p' = (.ok c, r) := by
  rw [exec_bind] at h
  split at h
  next a p' hleft => exact ⟨a, p', hleft, h⟩
  next => cases h

theorem Both.bind {R' : γ → Progress → δ → Progress → Prop} {next : α → Step γ}
    {next' : β → Step δ} (h : Both left right R p q)
    (hnext : ∀ a p' b q', R a p' b q' → Both (next a) (next' b) R' p' q') :
    Both (left >>= next) (right >>= next') R' p q := by
  intro c r d t hleft hright
  obtain ⟨a, p', ha, hleft⟩ := exec_bind_ok hleft
  obtain ⟨b, q', hb, hright⟩ := exec_bind_ok hright
  exact hnext a p' b q' (h a p' b q' ha hb) c r d t hleft hright

/-- A step that only the left run takes. -/
theorem Both.bind_left {R' : γ → Progress → β → Progress → Prop} {next : α → Step γ}
    (h : left.wp (fun a p' => Both (next a) right R' p' q) (fun _ _ => True) p) :
    Both (left >>= next) right R' p q := by
  intro c r b q' hleft hright
  obtain ⟨a, p', ha, hleft⟩ := exec_bind_ok hleft
  simp only [wp, ha] at h
  exact h c r b q' hleft hright

end Rules

/-- The answer to whether the run is to be cancelled is kept. -/
theorem ask_eq (s : Setup) (p : Progress) : (p.ask s).1 = (p.ask s).2.cancelled := rfl

theorem ask_of_cancelled {s : Setup} (h : p.cancelled = true) : (p.ask s).1 = true := by
  simp [Progress.ask, h]

section Loops

variable {s t : Setup} {R R' : Progress → Progress → Prop} {step step' : α → Step Unit}

/-- Two runs ask whether they are to be cancelled. -/
theorem both_isCancelled (hleft : ∀ p q, R p q → R (p.ask s).2 q)
    (hright : ∀ p q, R p q → R p (q.ask t).2) (h : R p q) :
    Both (isCancelled s) (isCancelled t)
      (fun a p' b q' => a = p'.cancelled ∧ b = q'.cancelled ∧ R p' q') p q := by
  refine .of_wp ?_
  rw [isCancelled, wp_modifyGet, isCancelled, wp_modifyGet]
  exact ⟨ask_eq s p, ask_eq t q, hright _ q (hleft p q h)⟩

/-- A phase that is left out when a run is to be cancelled. -/
theorem both_unlessCancelled {left right : Step Unit} (hleft : ∀ p q, R p q → R (p.ask s).2 q)
    (hright : ∀ p q, R p q → R p (q.ask t).2)
    (hstep : ∀ p q, R p q → Both left right (fun _ p' _ q' => UnlessCancelled R' p' q') p q)
    (h : UnlessCancelled R p q) :
    Both (unlessCancelled s left) (unlessCancelled t right)
      (fun _ p' _ q' => UnlessCancelled R' p' q') p q := by
  rcases h with h | h | h
  · refine .of_left ?_
    rw [unlessCancelled, wp_bind, isCancelled, wp_modifyGet, if_pos (ask_of_cancelled h), wp_pure]
    exact fun _ _ => .inl (ask_of_cancelled h)
  · refine .of_right ?_
    rw [unlessCancelled, wp_bind, isCancelled, wp_modifyGet, if_pos (ask_of_cancelled h), wp_pure]
    exact fun _ _ => .inr (.inl (ask_of_cancelled h))
  · refine (both_isCancelled hleft hright h).bind fun a p' b q' hask => ?_
    obtain ⟨ha, hb, h⟩ := hask
    cases a with
    | true => exact .of_left fun _ _ => .inl ha.symm
    | false =>
        cases b with
        | true => exact .of_right fun _ _ => .inr (.inl hb.symm)
        | false => exact hstep p' q' h

/-- Two loops, of which the right one is only about some members of the list. -/
theorem both_forM (also : α → Bool) (l : List α)
    (hleft : ∀ a ∈ l, also a = false → ∀ p q, R p q →
      (step a).wp (fun _ p' => R p' q) (fun _ _ => True) p)
    (hboth : ∀ a ∈ l, also a = true → ∀ p q, R p q →
      Both (step a) (step' a) (fun _ p' _ q' => R p' q') p q)
    (h : R p q) :
    Both (l.forM step) ((l.filter also).forM step') (fun _ p' _ q' => R p' q') p q := by
  rw [List.forM_eq_forM]
  induction l generalizing p q with
  | nil =>
      refine .of_wp ?_
      exact h
  | cons a rest ih =>
      have ih {p q} := @ih p q (fun b hb => hleft b (List.mem_cons_of_mem _ hb))
        fun b hb => hboth b (List.mem_cons_of_mem _ hb)
      rw [List.forM_cons]
      cases halso : also a with
      | false =>
          rw [List.filter_cons_of_neg (by simp [halso])]
          refine .bind_left ((hleft a List.mem_cons_self halso p q h).mono (fun _ p' hp' => ?_)
            fun _ _ => id)
          exact ih hp'
      | true =>
          rw [List.filter_cons_of_pos halso, List.forM_cons]
          exact (hboth a List.mem_cons_self halso p q h).bind fun _ _ _ _ h => ih h

/-- Two loops that may be left, of which the right one is only about some members of the list. -/
theorem both_whileRunning (also : α → Bool) (l : List α)
    (haskLeft : ∀ p q, R p q → R (p.ask s).2 q) (haskRight : ∀ p q, R p q → R p (q.ask t).2)
    (hleft : ∀ a ∈ l, also a = false → ∀ p q, R p q →
      (step a).wp (fun _ p' => R p' q) (fun _ _ => True) p)
    (hboth : ∀ a ∈ l, also a = true → ∀ p q, R p q →
      Both (step a) (step' a) (fun _ p' _ q' => R p' q') p q)
    (h : R p q) :
    Both (whileRunning s step l) (whileRunning t step' (l.filter also)) (BothEnded R) p q := by
  induction l generalizing p q with
  | nil =>
      refine .of_wp ?_
      exact .inr (.inr ⟨rfl, rfl, h⟩)
  | cons a rest ih =>
      have ih {p q} := @ih p q (fun b hb => hleft b (List.mem_cons_of_mem _ hb))
        fun b hb => hboth b (List.mem_cons_of_mem _ hb)
      rw [whileRunning]
      -- The left run asks for every member, the right one only for those that it is about.
      cases halso : also a with
      | false =>
          rw [List.filter_cons_of_neg (by simp [halso])]
          refine .bind_left ?_
          rw [isCancelled, wp_modifyGet]
          split
          next hcancelled => exact .of_left fun _ _ => .inl ⟨rfl, hcancelled⟩
          next =>
            refine .bind_left ((hleft a List.mem_cons_self halso _ q
              (haskLeft p q h)).mono (fun _ p' hp' => ?_) fun _ _ => id)
            exact ih hp'
      | true =>
          rw [List.filter_cons_of_pos halso, whileRunning]
          refine (both_isCancelled haskLeft haskRight h).bind fun c p' d q' hask => ?_
          obtain ⟨hc, hd, h⟩ := hask
          cases c with
          | true => exact .of_left fun _ _ => .inl ⟨rfl, hc.symm⟩
          | false =>
              cases d with
              | true => exact .of_right fun _ _ => .inr (.inl ⟨rfl, hd.symm⟩)
              | false =>
                  refine (hboth a List.mem_cons_self halso p' q' h).bind fun _ _ _ _ h => ?_
                  exact ih h

/-- Two loops about one list that may be left. -/
theorem both_whileRunning_same (l : List α) (haskLeft : ∀ p q, R p q → R (p.ask s).2 q)
    (haskRight : ∀ p q, R p q → R p (q.ask t).2)
    (hboth : ∀ a ∈ l, ∀ p q, R p q → Both (step a) (step' a) (fun _ p' _ q' => R p' q') p q)
    (h : R p q) :
    Both (whileRunning s step l) (whileRunning t step' l) (BothEnded R) p q := by
  have hloop := both_whileRunning (fun _ => true) l haskLeft haskRight
    (fun _ _ hnot => Bool.noConfusion hnot) (fun a ha _ => hboth a ha) h
  rwa [List.filter_eq_self.2 fun _ _ => rfl] at hloop

/-- A step that is taken if a loop has come to its end. -/
theorem BothEnded.both {left right : Step Unit} {all all' : Bool} (h : BothEnded R all p all' q)
    (hstep : R p q → Both left right (fun _ p' _ q' => UnlessCancelled R' p' q') p q) :
    Both (if all = true then left else pure ()) (if all' = true then right else pure ())
      (fun _ p' _ q' => UnlessCancelled R' p' q') p q := by
  rcases h with ⟨rfl, h⟩ | ⟨rfl, h⟩ | ⟨rfl, rfl, h⟩
  · exact .of_left fun _ _ => .inl h
  · exact .of_right fun _ _ => .inr (.inl h)
  · exact hstep h

end Loops

end Continuity.Run.Step
