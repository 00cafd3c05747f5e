import DependencyEvidence.Json.Printer
import DependencyEvidence.Json.Reader

/-!
# Texts in JSON documents

A text is written as a sequence of escaped characters between quotes. The lexer collects code units, and joins the
halves of surrogate pairs at the closing quote.

* `foldlM_escapedChar`: what is written of one character makes the lexer collect the code point of that character;
* `joinSurrogates_map_toNat`: no character is half of a pair, so code points are joined to what they came from;
* `foldlM_quoted`: so a text in quotes is one token, with the text for its content.
-/

namespace DependencyEvidence.Json

/-! ## Folds that may fail -/

section Folds

variable {σ α : Type} {f : σ → α → Option σ} {s s' : σ}

theorem foldlM_cons_of_some {a : α} (h : f s a = some s') (rest : List α) :
    (a :: rest).foldlM f s = rest.foldlM f s' := by
  rw [List.foldlM_cons, h]
  rfl

theorem foldlM_append_of_some {l : List α} (h : l.foldlM f s = some s') (rest : List α) :
    (l ++ rest).foldlM f s = rest.foldlM f s' := by
  rw [List.foldlM_append, h]
  rfl

end Folds

/-! ## Code points -/

theorem charOf?_toNat (c : Char) : Text.charOf? c.toNat = some c := by
  have hvalid : c.toNat.isValidChar := c.valid
  rw [Text.charOf?, dif_pos hvalid]
  rfl

/-- A character is not the first half of a surrogate pair. -/
theorem not_surrogate (c : Char) : ¬ (0xD800 ≤ c.toNat ∧ c.toNat < 0xDC00) := by
  have hvalid : c.toNat < 0xD800 ∨ (0xDFFF < c.toNat ∧ c.toNat < 0x110000) := c.valid
  omega

theorem joinSurrogates_map_toNat (text : List Char) : joinSurrogates (text.map Char.toNat) = some text := by
  induction text with
  | nil => rfl
  | cons c rest ih =>
    rw [List.map_cons, joinSurrogates.eq_def]
    dsimp only
    rw [if_neg (not_surrogate c), charOf?_toNat, ih]
    rfl

/-! ## Characters -/

namespace Lexer

theorem advance_text (done : List Token) (units : List Nat) (c : Char) :
    advance ⟨done, .text units⟩ c =
      if c = '"' then some ⟨.text ((joinSurrogates units.reverse).map String.ofList) :: done, .between⟩
      else if c = '\\' then some ⟨done, .escape units⟩
      else if c.toNat < 0x20 then none
      else some ⟨done, .text (c.toNat :: units)⟩ := rfl

theorem advance_escape (done : List Token) (units : List Nat) {letter c : Char} (hletter : letter ≠ 'u')
    (h : escaped? letter = some c) : advance ⟨done, .escape units⟩ letter = some ⟨done, .text (c.toNat :: units)⟩ := by
  show (if letter = 'u' then _ else (escaped? letter).map _) = _
  rw [if_neg hletter, h]
  rfl

theorem advance_hex (done : List Token) (units : List Nat) {left value digit : Nat} {c : Char}
    (h : Text.digitValue? c = some digit) :
    advance ⟨done, .hex units left value⟩ c =
      some ⟨done, if left ≤ 1 then .text ((16 * value + digit) :: units)
        else .hex units (left - 1) (16 * value + digit)⟩ := by
  show ((Text.digitValue? c).bind _) = _
  rw [h]
  rfl

end Lexer

theorem digitValue?_hexDigit {n : Nat} (h : n < 16) : Text.digitValue? (hexDigit n) = some n := by
  have hall : ∀ m : Fin 16, Text.digitValue? (hexDigit m) = some m.val := by decide
  exact hall ⟨n, h⟩

section Characters

variable (done : List Token) (units : List Nat)

/-- A letter after a backslash is read as the character that it stands for. -/
theorem foldlM_escape {letter c : Char} (hletter : letter ≠ 'u') (h : Lexer.escaped? letter = some c) :
    ['\\', letter].foldlM Lexer.advance ⟨done, .text units⟩ = some ⟨done, .text (c.toNat :: units)⟩ := by
  have hescape : Lexer.advance ⟨done, .text units⟩ '\\' = some ⟨done, .escape units⟩ := rfl
  rw [foldlM_cons_of_some hescape, foldlM_cons_of_some (Lexer.advance_escape done units hletter h)]
  rfl

/-- Four digits of which the first two are zeros are read as the number that the others spell. -/
theorem foldlM_hex {n : Nat} (h : n < 256) :
    ['\\', 'u', '0', '0', hexDigit (n / 16), hexDigit (n % 16)].foldlM Lexer.advance ⟨done, .text units⟩ =
      some ⟨done, .text (n :: units)⟩ := by
  have hzeros : ['\\', 'u', '0', '0'].foldlM Lexer.advance ⟨done, .text units⟩ = some ⟨done, .hex units 2 0⟩ := rfl
  have hhigh : Lexer.advance ⟨done, .hex units 2 0⟩ (hexDigit (n / 16)) = some ⟨done, .hex units 1 (n / 16)⟩ := by
    rw [Lexer.advance_hex done units (digitValue?_hexDigit (by omega)), if_neg (by decide), Nat.mul_zero, Nat.zero_add]
  have hlow : Lexer.advance ⟨done, .hex units 1 (n / 16)⟩ (hexDigit (n % 16)) = some ⟨done, .text (n :: units)⟩ := by
    rw [Lexer.advance_hex done units (digitValue?_hexDigit (by omega)), if_pos (Nat.le_refl 1), Nat.div_add_mod]
  calc _ = [hexDigit (n / 16), hexDigit (n % 16)].foldlM Lexer.advance ⟨done, .hex units 2 0⟩ :=
        foldlM_append_of_some hzeros _
    _ = [hexDigit (n % 16)].foldlM Lexer.advance ⟨done, .hex units 1 (n / 16)⟩ := foldlM_cons_of_some hhigh _
    _ = some ⟨done, .text (n :: units)⟩ := foldlM_cons_of_some hlow []

/-- **What is written of a character is read as this character.** -/
theorem foldlM_escapedChar (c : Char) :
    (escapedChar c).foldlM Lexer.advance ⟨done, .text units⟩ = some ⟨done, .text (c.toNat :: units)⟩ := by
  unfold escapedChar
  -- the characters that a letter stands for
  iterate 7
    split
    · next h => exact foldlM_escape done units (by decide) (by rw [h]; rfl)
  split
  · exact foldlM_hex done units (by omega)
  · next hquote hbackslash _ _ _ _ _ hprinted =>
    have hkept : Lexer.advance ⟨done, .text units⟩ c = some ⟨done, .text (c.toNat :: units)⟩ := by
      rw [Lexer.advance_text, if_neg hquote, if_neg hbackslash, if_neg hprinted]
    rw [foldlM_cons_of_some hkept]
    rfl

end Characters

/-! ## Texts -/

/-- The lexer collects the code points of a text. -/
theorem foldlM_flatMap_escapedChar (done : List Token) (units : List Nat) (text : List Char) :
    (text.flatMap escapedChar).foldlM Lexer.advance ⟨done, .text units⟩ =
      some ⟨done, .text ((text.map Char.toNat).reverse ++ units)⟩ := by
  induction text generalizing units with
  | nil => rfl
  | cons c rest ih =>
    rw [List.flatMap_cons, foldlM_append_of_some (foldlM_escapedChar done units c), ih, List.map_cons,
      List.reverse_cons, List.append_assoc]
    rfl

/-- **A text in quotes is read as this text.** -/
theorem foldlM_quoted (done : List Token) (content : String) :
    (quoted (some content)).foldlM Lexer.advance ⟨done, .between⟩ =
      some ⟨.text (some content) :: done, .between⟩ := by
  have hopen : Lexer.advance ⟨done, .between⟩ '"' = some ⟨done, .text []⟩ := rfl
  have hclose : Lexer.advance ⟨done, .text (content.toList.map Char.toNat).reverse⟩ '"' =
      some ⟨.text (some content) :: done, .between⟩ := by
    rw [Lexer.advance_text, if_pos rfl, List.reverse_reverse, joinSurrogates_map_toNat, Option.map_some,
      String.ofList_toList]
  have hcontent := foldlM_flatMap_escapedChar done [] content.toList
  rw [List.append_nil] at hcontent
  rw [quoted, Option.getD_some, List.cons_append, foldlM_cons_of_some hopen, foldlM_append_of_some hcontent,
    foldlM_cons_of_some hclose]
  rfl

end DependencyEvidence.Json
