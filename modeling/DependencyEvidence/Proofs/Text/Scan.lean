import DependencyEvidence.Text.Scan
import Mathlib.Data.List.Basic

/-!
# Scanners one after another

A scanner that is followed by another one, and a step that is repeated, told by what the first scanner or step gives.

* `Scan.Gives` says what holds of everything that a scanner gives.
* `Scan.Leaves` says that a scanner leaves an end of the text, as all of those do that are built from the ones that take
  characters.
-/

namespace DependencyEvidence

namespace Scan

variable {α β σ ρ : Type}

/-! ## One after another -/

theorem bind_eq_some {p : Scan α} {f : α → Scan β} {t u : List Char} {b : β} :
    (p >>= f) t = some (b, u) ↔ ∃ a v, p t = some (a, v) ∧ f a v = some (b, u) := by
  show (p t).bind (fun x => f x.1 x.2) = some (b, u) ↔ _
  simp [Option.bind_eq_some_iff]

theorem bind_of_some {p : Scan α} {f : α → Scan β} {t v : List Char} {a : α} (h : p t = some (a, v)) :
    (p >>= f) t = f a v := by
  show (p t).bind (fun x => f x.1 x.2) = _
  rw [h]
  rfl

theorem bind_of_none {p : Scan α} {f : α → Scan β} {t : List Char} (h : p t = none) : (p >>= f) t = none := by
  show (p t).bind (fun x => f x.1 x.2) = _
  rw [h]
  rfl

theorem eq_cons_of_character {c : Char} {t u : List Char} (h : character c t = some ((), u)) : t = c :: u := by
  cases t with
  | nil => cases h
  | cons d rest =>
    replace h : (if (d == c) = true then Pure.pure d else Alternative.failure : Scan Char) rest >>=
      (fun x => some ((), x.2)) = some ((), u) := h
    split at h
    · next hd =>
      cases h
      rw [eq_of_beq hd]
    · cases h

/-! ## Again and again -/

section

variable {step : σ → Scan (Step σ ρ)} {a a' : σ} {t t' : List Char}

theorem iterate_of_again (h : step a t = some (.again a', t')) (hlt : t'.length < t.length) :
    iterate step a t = iterate step a' t' := by
  rw [Scan.iterate, h]
  exact if_pos hlt

/-- A step that takes nothing makes a repetition fail. -/
theorem iterate_of_again_of_not_lt (h : step a t = some (.again a', t')) (hlt : ¬ t'.length < t.length) :
    iterate step a t = none := by
  rw [Scan.iterate, h]
  exact if_neg hlt

theorem iterate_of_stop {r : ρ} (h : step a t = some (.stop r, t')) : iterate step a t = some (r, t') := by
  rw [Scan.iterate, h]

end

/-! ## What is given -/

/-- What holds of everything that a scanner gives. -/
def Gives (P : α → Prop) (p : Scan α) : Prop := ∀ t a u, p t = some (a, u) → P a

namespace Gives

variable {P : α → Prop}

theorem pure {a : α} (h : P a) : Gives P (Pure.pure a : Scan α) := fun _ _ _ hp => by
  cases hp
  exact h

theorem failure : Gives P (Alternative.failure : Scan α) := fun _ _ _ hp => nomatch hp

theorem present {o : Option α} (h : ∀ a ∈ o, P a) : Gives P (Scan.present o) := by
  cases o with
  | none => exact failure
  | some a => exact pure (h a rfl)

theorem bind {p : Scan β} {f : β → Scan α} (h : ∀ b, Gives P (f b)) : Gives P (p >>= f) := fun _ _ _ hp => by
  obtain ⟨b, _, _, hb⟩ := bind_eq_some.1 hp
  exact h b _ _ _ hb

theorem ite {b : Prop} [Decidable b] {p q : Scan α} (hp : Gives P p) (hq : Gives P q) : Gives P (if b then p else q) := by
  split
  · exact hp
  · exact hq

end Gives

/-! ## What is left -/

/-- What the scanner leaves is an end of the text. -/
class Leaves (p : Scan α) : Prop where
  suffix : ∀ {t a u}, p t = some (a, u) → u <:+ t

namespace Leaves

instance pure (a : α) : Leaves (Pure.pure a : Scan α) where
  suffix h := by
    cases h
    exact List.suffix_rfl

instance failure : Leaves (Alternative.failure : Scan α) where
  suffix h := nomatch h

instance bind {p : Scan α} {f : α → Scan β} [hp : Leaves p] [hf : ∀ a, Leaves (f a)] : Leaves (p >>= f) where
  suffix h := by
    obtain ⟨a, v, hv, hu⟩ := bind_eq_some.1 h
    exact ((hf a).suffix hu).trans (hp.suffix hv)

instance ite {c : Prop} [Decidable c] {p q : Scan α} [hp : Leaves p] [hq : Leaves q] : Leaves (if c then p else q) := by
  split
  · exact hp
  · exact hq

instance get : Leaves (MonadState.get : Scan (List Char)) where
  suffix h := by
    cases h
    exact List.suffix_rfl

instance peek : Leaves peek := inferInstanceAs (Leaves (MonadState.get >>= fun _ => Pure.pure _))

instance atEnd : Leaves atEnd := inferInstanceAs (Leaves (MonadState.get >>= fun _ => Pure.pure _))

instance next : Leaves next where
  suffix {t a u} h := by
    cases t with
    | nil => cases h
    | cons c rest =>
      cases h
      exact List.suffix_cons _ _

instance satisfy (test : Char → Bool) : Leaves (satisfy test) := by
  unfold Scan.satisfy
  infer_instance

instance character (c : Char) : Leaves (character c) := by
  unfold Scan.character
  infer_instance

instance accept (word : String) : Leaves (accept word) where
  suffix h := by
    unfold Scan.accept at h
    split at h
    · cases h
      exact List.drop_suffix _ _
    · cases h
      exact List.suffix_rfl

instance takeWhile (test : Char → Bool) : Leaves (takeWhile test) where
  suffix h := by
    cases h
    exact List.dropWhile_suffix _

instance skipWhile (test : Char → Bool) : Leaves (skipWhile test) where
  suffix h := by
    cases h
    exact List.dropWhile_suffix _

instance iterate {step : σ → Scan (Step σ ρ)} [hstep : ∀ s, Leaves (step s)] (s : σ) : Leaves (iterate step s) where
  suffix {t a u} h := by
    induction hn : t.length using Nat.strongRecOn generalizing s t with
    | _ n ih =>
      rw [Scan.iterate] at h
      split at h
      · cases h
      · next hs =>
        cases h
        exact (hstep s).suffix hs
      · next s' rest hs =>
        split at h
        · next hlt => exact (ih rest.length (hn ▸ hlt) s' h rfl).trans ((hstep s).suffix hs)
        · cases h

instance mapM {ι : Type} {f : ι → Scan α} [hf : ∀ i, Leaves (f i)] (l : List ι) : Leaves (l.mapM f) := by
  induction l with
  | nil => exact pure _
  | cons i rest ih =>
    rw [List.mapM_cons]
    infer_instance

end Leaves

end Scan

end DependencyEvidence
