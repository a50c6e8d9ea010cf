import Mathlib.Tactic.Common

/-! Steps that may fail, one after the other: when they succeed, and what they keep if they do. -/
namespace RecordSearch

section
variable {ε α β : Type} {x : Except ε α}

@[simp] lemma map_eq_error_iff {f : α → β} {e : ε} : x.map f = .error e ↔ x = .error e := by
  cases x <;> simp [Except.map]

@[simp] lemma map_eq_ok_iff {f : α → β} {b : β} : x.map f = .ok b ↔ ∃ a, x = .ok a ∧ f a = b := by
  cases x <;> simp [Except.map]

lemma bind_eq_ok_iff {f : α → Except ε β} {b : β} :
    (x >>= f) = .ok b ↔ ∃ a, x = .ok a ∧ f a = .ok b := by
  cases x <;> simp [bind,Except.bind]

lemma bind_eq_error_iff {f : α → Except ε β} {e : ε} :
    (x >>= f) = .error e ↔ x = .error e ∨ ∃ a, x = .ok a ∧ f a = .error e := by
  cases x <;> simp [bind,Except.bind]

lemma mapError_eq_ok_iff {ε' : Type} {f : ε → ε'} {a : α} :
    x.mapError f = .ok a ↔ x = .ok a := by
  cases x <;> simp [Except.mapError]

/-- Reporting failures otherwise, but each in its own way, makes no two outcomes the same. -/
lemma mapError_inj {ε' : Type} {f : ε → ε'} (hf : Function.Injective f) {y : Except ε α} :
    x.mapError f = y.mapError f ↔ x = y := by
  cases x <;> cases y <;> simp [Except.mapError,hf.eq_iff]

end

/-- Whether it comes to the same to go on after a pass, which is up to where it ends. -/
lemma foldlM_append_eq_left_iff {ε α β : Type} {f : β → α → Except ε β} {xs ys : List α} {b : β} :
    xs.foldlM f b = (xs ++ ys).foldlM f b ↔
      ∀ c, xs.foldlM f b = .ok c → ys.foldlM f c = .ok c := by
  rw [List.foldlM_append]
  cases xs.foldlM f b with
  | error e => simp [bind,Except.bind]
  | ok c =>
    simp only [bind,Except.bind,Except.ok.injEq,forall_eq']
    exact eq_comm

/-- A pass fails at the first of its steps that fails, and the way this does. -/
lemma foldlM_eq_error_iff {ε α β : Type} {f : β → α → Except ε β} {xs : List α} {b : β} {e : ε} :
    xs.foldlM f b = .error e ↔ ∃ before x after c,
      xs = before ++ x :: after ∧ before.foldlM f b = .ok c ∧ f c x = .error e := by
  induction xs generalizing b with
  | nil =>
    constructor
    · intro h; cases h
    · rintro ⟨before,x,after,c,h,-,-⟩
      exact absurd h.symm (List.append_ne_nil_of_right_ne_nil before (List.cons_ne_nil x after))
  | cons x xs ih =>
    rw [List.foldlM_cons,bind_eq_error_iff]
    constructor
    · rintro (hx | ⟨b',hb',h⟩)
      · exact ⟨[],x,xs,b,rfl,rfl,hx⟩
      · obtain ⟨before,y,after,c,rfl,hbefore,hy⟩ := ih.1 h
        refine ⟨x :: before,y,after,c,rfl,?_,hy⟩
        rw [List.foldlM_cons,hb']
        exact hbefore
    · rintro ⟨before,y,after,c,hxs,hbefore,hy⟩
      cases before with
      | nil =>
        cases hxs
        cases hbefore
        exact .inl hy
      | cons z before =>
        cases hxs
        rw [List.foldlM_cons,bind_eq_ok_iff] at hbefore
        obtain ⟨b',hb',hbefore⟩ := hbefore
        exact .inr ⟨b',hb',ih.2 ⟨before,y,after,c,rfl,hbefore,hy⟩⟩

/-- A pass that succeeds keeps what each of its steps keeps. -/
lemma foldlM_induction {ε α β : Type} {f : β → α → Except ε β} {I : β → Prop} {xs : List α}
    {b c : β} (hstep : ∀ x ∈ xs, ∀ b c, I b → f b x = .ok c → I c) (hb : I b)
    (h : xs.foldlM f b = .ok c) : I c := by
  induction xs generalizing b with
  | nil => cases h; exact hb
  | cons x xs ih =>
    rw [List.foldlM_cons] at h
    cases hx : f b x with
    | error e => rw [hx] at h; cases h
    | ok b' =>
      rw [hx] at h
      exact ih (fun y hy => hstep y (by simp [hy])) (hstep x (by simp) b b' hb hx) h

end RecordSearch
