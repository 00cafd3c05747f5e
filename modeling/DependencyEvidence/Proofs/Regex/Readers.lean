import DependencyEvidence.Proofs.Regex.Brackets
import DependencyEvidence.Proofs.Regex.Matching

/-!
# Readers within a pattern

A reader in front of a text, and another one that has further groups open around the text (`Reader.Within`). Whatever a
reader does keeps the two together, as long as it does not close a group that is open around the text.

The flags of the two may differ in ignoring case, and what they have read is near: it has the same nesting, and no
repetition in it allows fewer copies than it needs.
-/

namespace DependencyEvidence.Regex

variable {same : Prop} {f g : Flags}

/-! ## Near pieces -/

/-- Two pieces with the same nesting, which are the same if they have to be. No repetition in them allows fewer copies
than it needs. -/
structure Piece.Near (same : Prop) (p q : Piece) : Prop where
  depth : p.depth = q.depth
  bounded : p.regex.Bounded ∧ q.regex.Bounded
  eq : same → p = q

theorem bounded_foldl {combine : Regex → Regex → Regex}
    (hcombine : ∀ r s, r.Bounded → s.Bounded → (combine r s).Bounded) {parts : List Regex} {r : Regex} (hr : r.Bounded)
    (h : ∀ s ∈ parts, s.Bounded) : (parts.foldl combine r).Bounded := by
  induction parts generalizing r with
  | nil => exact hr
  | cons s rest ih =>
    obtain ⟨hs, hrest⟩ := List.forall_mem_cons.1 h
    exact ih (hcombine r s hr hs) hrest

theorem bounded_sequence {parts : List Regex} (h : ∀ r ∈ parts, r.Bounded) : (sequence parts).Bounded := by
  match parts, h with
  | [], _ => exact trivial
  | [r], h => exact h r (.head _)
  | r :: s :: rest, h =>
    obtain ⟨hr, hrest⟩ := List.forall_mem_cons.1 h
    exact bounded_foldl (fun _ _ => And.intro) hr hrest

theorem bounded_anyOf {branches : List Regex} (h : ∀ r ∈ branches, r.Bounded) : (anyOf branches).Bounded := by
  match branches, h with
  | [], _ => exact trivial
  | [r], h => exact h r (.head _)
  | r :: s :: rest, h =>
    obtain ⟨hr, hrest⟩ := List.forall_mem_cons.1 h
    exact bounded_foldl (fun _ _ => And.intro) hr hrest

namespace Piece.Near

variable {p q : Piece} {ps qs : List Piece}

theorem refl (h : p.regex.Bounded) : p.Near same p := ⟨rfl, ⟨h, h⟩, fun _ => rfl⟩

theorem empty : Piece.empty.Near same .empty := refl trivial

theorem one {a b : CharClass} (hab : same → a = b) {m n : Nat} (hdepth : m = n) :
    (Piece.one a m).Near same (.one b n) :=
  ⟨hdepth, ⟨trivial, trivial⟩, fun hs => by rw [hab hs, hdepth]⟩

theorem holds (a : Assertion) : (Piece.holds a).Near same (.holds a) := refl trivial

theorem repeated (h : p.Near same q) {least : Nat} {most : Option Nat} (hmost : ∀ m ∈ most, least ≤ m) (lazily : Bool) :
    (p.repeated least most lazily).Near same (q.repeated least most lazily) :=
  ⟨congrArg (· + 1) h.depth, ⟨⟨h.bounded.1, hmost⟩, ⟨h.bounded.2, hmost⟩⟩, fun hs => by rw [h.eq hs]⟩

theorem grouped (h : p.Near same q) (number : Option Nat) : (p.grouped number).Near same (q.grouped number) :=
  ⟨congrArg (· + 1) h.depth, h.bounded, fun hs => by rw [h.eq hs]⟩

theorem bounded_of_mem (h : List.Forall₂ (Piece.Near same) ps qs) :
    (∀ r ∈ ps.map (·.regex), r.Bounded) ∧ ∀ r ∈ qs.map (·.regex), r.Bounded := by
  induction h with
  | nil => simp
  | cons hpq _ ih => exact ⟨List.forall_mem_cons.2 ⟨hpq.bounded.1, ih.1⟩, List.forall_mem_cons.2 ⟨hpq.bounded.2, ih.2⟩⟩

theorem depthAround (h : List.Forall₂ (Piece.Near same) ps qs) : Piece.depthAround ps = Piece.depthAround qs :=
  congrArg (· + 1) (foldl_max_of_forall₂ (fun _ _ h => h.depth) h 0)

theorem anyOf (h : List.Forall₂ (Piece.Near same) ps qs) : (Piece.anyOf ps).Near same (.anyOf qs) := by
  refine ⟨?_, ?_, fun hs => congrArg Piece.anyOf (eq_of_forall₂ (fun _ _ hpq => hpq.eq) h hs)⟩
  all_goals
    cases h with
    | nil => first | rfl | exact ⟨trivial, trivial⟩
    | cons hpq rest =>
      cases rest with
      | nil => first | exact hpq.depth | exact hpq.bounded
      | cons hrs rest =>
        have hall := List.Forall₂.cons hpq (.cons hrs rest)
        first
        | exact depthAround hall
        | exact ⟨bounded_anyOf (bounded_of_mem hall).1, bounded_anyOf (bounded_of_mem hall).2⟩

end Piece.Near

/-! ## Near items and groups -/

/-- Two items: near pieces, or changes of flags. -/
inductive Item.Near (same : Prop) : Item → Item → Prop
  | piece {p q : Piece} (near : p.Near same q) : Near same (.piece p) (.piece q)
  | flags : Near same .flags .flags

theorem Item.Near.eq {i j : Item} (h : i.Near same j) (hs : same) : i = j := by
  cases h with
  | piece near => rw [near.eq hs]
  | flags => rfl

theorem Piece.Near.sequence {is js : List Item} (h : List.Forall₂ (Item.Near same) is js) :
    (Piece.sequence is).Near same (.sequence js) := by
  have hpieces : List.Forall₂ (Piece.Near same) (is.map Piece.ofItem) (js.map Piece.ofItem) :=
    List.forall₂_map_left_iff.2 (List.forall₂_map_right_iff.2 (h.imp fun i j hij => by
      cases hij with
      | piece near => exact near
      | flags => exact .empty))
  suffices hnear : (Piece.sequence is).depth = (Piece.sequence js).depth ∧
      (Piece.sequence is).regex.Bounded ∧ (Piece.sequence js).regex.Bounded from
    ⟨hnear.1, hnear.2, fun hs => congrArg Piece.sequence (eq_of_forall₂ (fun _ _ hij => hij.eq) h hs)⟩
  unfold Piece.sequence
  generalize is.map Piece.ofItem = ps at hpieces ⊢
  generalize js.map Piece.ofItem = qs at hpieces ⊢
  cases hpieces with
  | nil => exact ⟨rfl, trivial, trivial⟩
  | cons hpq rest =>
    cases rest with
    | nil => exact ⟨hpq.depth, hpq.bounded⟩
    | cons hrs rest =>
      have hall := List.Forall₂.cons hpq (.cons hrs rest)
      exact ⟨Piece.Near.depthAround hall, bounded_sequence (Piece.Near.bounded_of_mem hall).1,
        bounded_sequence (Piece.Near.bounded_of_mem hall).2⟩

/-- Two groups in which the same has been read. -/
structure Group.Contents (same : Prop) (g g' : Group) : Prop where
  branches : List.Forall₂ (Piece.Near same) g.branches g'.branches
  items : List.Forall₂ (Item.Near same) g.items g'.items

theorem Group.Contents.joined {g g' : Group} (h : g.Contents same g') : g.joined.Near same g'.joined :=
  .anyOf (List.rel_reverse (.cons (.sequence (List.rel_reverse h.items)) h.branches))

/-! ## Open groups -/

/-- Two stacks of open groups, the innermost ones apart. The second goes on with more groups behind the outermost group of
the first, which it leaves with certain flags. -/
inductive GroupsWithin (same : Prop) (f : Flags) (more : List Group) : Group → List Group → Group → List Group → Prop
  | outermost {g g' : Group} (contents : g.Contents same g') (number : g'.number = none)
    (flagsAfter : g'.flagsAfter = f) :
    GroupsWithin same f more g [] g' more
  | inner {g g' next next' : Group} {outer outer' : List Group} (contents : g.Contents same g')
    (number : g.number = g'.number) (flagsAfter : g.flagsAfter.Near same g'.flagsAfter)
    (rest : GroupsWithin same f more next outer next' outer') :
    GroupsWithin same f more g (next :: outer) g' (next' :: outer')

/-- Two readers of which the second has more groups open around the text. -/
structure Reader.Within (same : Prop) (f : Flags) (more : List Group) (r w : Reader) : Prop where
  flags : r.flags.Near same w.flags
  names : r.names = w.names
  groups : r.groups = w.groups
  stack : GroupsWithin same f more r.group r.outer w.group w.outer

namespace GroupsWithin

variable {more outer outer' : List Group} {a a' : Group}

theorem contents (h : GroupsWithin same f more a outer a' outer') : a.Contents same a' := by
  cases h with
  | outermost contents => exact contents
  | inner contents => exact contents

/-- What is read goes into the innermost groups. -/
theorem set (h : GroupsWithin same f more a outer a' outer') {branches branches' : List Piece}
    {items items' : List Item} (hbranches : List.Forall₂ (Piece.Near same) branches branches')
    (hitems : List.Forall₂ (Item.Near same) items items') :
    GroupsWithin same f more { a with branches, items } outer { a' with branches := branches', items := items' }
      outer' := by
  cases h with
  | outermost _ number flagsAfter => exact .outermost ⟨hbranches, hitems⟩ number flagsAfter
  | inner _ number flagsAfter rest => exact .inner ⟨hbranches, hitems⟩ number flagsAfter rest

/-- All groups are open in the second that are open in the first, and more. -/
theorem length (h : GroupsWithin same f more a outer a' outer') : outer'.length = outer.length + more.length := by
  induction h with
  | outermost => exact (Nat.zero_add _).symm
  | inner _ _ _ _ ih => rw [List.length_cons, List.length_cons, ih]; omega

end GroupsWithin

namespace Reader.Within

variable {more : List Group} {r w : Reader}

theorem push (h : r.Within same f more w) {i j : Item} (hij : i.Near same j) : (r.push i).Within same f more (w.push j) :=
  ⟨h.flags, h.names, h.groups, h.stack.set h.stack.contents.branches (.cons hij h.stack.contents.items)⟩

theorem pushPiece (h : r.Within same f more w) {p q : Piece} (hpq : p.Near same q) :
    (r.pushPiece p).Within same f more (w.pushPiece q) :=
  h.push (.piece hpq)

theorem branch (h : r.Within same f more w) : r.branch.Within same f more w.branch :=
  ⟨h.flags, h.names, h.groups, h.stack.set
    (.cons (.sequence (List.rel_reverse h.stack.contents.items)) h.stack.contents.branches) .nil⟩

/-- Flags that are set hold for both. -/
theorem setFlags (h : r.Within same f more w) {a b : Flags} (hab : a.Near same b) :
    { r with flags := a }.Within same f more { w with flags := b } :=
  ⟨hab, h.names, h.groups, h.stack⟩

theorem openPlain (h : r.Within same f more w) {a b : Flags} (hab : a.Near same b) :
    (r.openPlain a).Within same f more (w.openPlain b) :=
  ⟨hab, h.names, h.groups, .inner ⟨.nil, .nil⟩ rfl h.flags h.stack⟩

theorem openGroup (h : r.Within same f more w) : r.openGroup.Within same f more w.openGroup :=
  ⟨h.flags, h.names, congrArg (· + 1) h.groups,
    .inner ⟨.nil, .nil⟩ (congrArg (fun n => some (n + 1)) h.groups) h.flags h.stack⟩

/-- Closing a group that both have open. -/
theorem closeGroup? (h : r.Within same f more w) (hopen : r.outer ≠ []) :
    Option.Rel (Reader.Within same f more) r.closeGroup? w.closeGroup? := by
  obtain ⟨flags, names, groups, a, outer⟩ := r
  obtain ⟨flags', names', groups', a', outer'⟩ := w
  have hstack : GroupsWithin same f more a outer a' outer' := h.stack
  cases hstack with
  | outermost => exact absurd rfl hopen
  | @inner _ _ next next' outer outer' contents number flagsAfter rest =>
    have hnext : Reader.Within same f more ⟨a.flagsAfter, names, groups, next, outer⟩
        ⟨a'.flagsAfter, names', groups', next', outer'⟩ := ⟨flagsAfter, h.names, h.groups, rest⟩
    have hclosed : (a.joined.grouped a.number).Near same (a'.joined.grouped a'.number) :=
      number ▸ contents.joined.grouped _
    exact .some (hnext.pushPiece hclosed)

theorem repeatLast? (h : r.Within same f more w) {least : Nat} {most : Option Nat} (hmost : ∀ m ∈ most, least ≤ m)
    (marked : Bool) :
    Option.Rel (Reader.Within same f more) (r.repeatLast? least most marked) (w.repeatLast? least most marked) := by
  obtain ⟨flags, names, groups, ⟨number, flagsAfter, branches, items⟩, outer⟩ := r
  obtain ⟨flags', names', groups', ⟨number', flagsAfter', branches', items'⟩, outer'⟩ := w
  have hitems : List.Forall₂ (Item.Near same) items items' := h.stack.contents.items
  cases hitems with
  | nil => exact .none
  | @cons i j items items' hij hrest =>
    cases hij with
    | flags => exact .none
    | @piece p q hpq =>
      have htaken : Reader.Within same f more ⟨flags, names, groups, ⟨number, flagsAfter, branches, items⟩, outer⟩
          ⟨flags', names', groups', ⟨number', flagsAfter', branches', items'⟩, outer'⟩ :=
        ⟨h.flags, h.names, h.groups, h.stack.set h.stack.contents.branches hrest⟩
      have hlazily : flags.lazily = flags'.lazily := h.flags.lazily
      have hrepeated : (p.repeated least most (marked != flags.lazily)).Near same
          (q.repeated least most (marked != flags'.lazily)) :=
        hlazily ▸ hpq.repeated hmost _
      exact .some (htaken.pushPiece hrepeated)

/-- A pattern that is complete for the first leaves the further groups of the second. -/
theorem finish? (h : r.Within same f more w) {p : Piece} (hp : r.finish? = some p) :
    w.outer = more ∧ p.Near same w.group.joined ∧ w.group.number = none ∧ w.group.flagsAfter = f := by
  obtain ⟨_, _, _, a, outer⟩ := r
  obtain ⟨_, _, _, a', outer'⟩ := w
  have hstack : GroupsWithin same f more a outer a' outer' := h.stack
  cases hstack with
  | outermost contents number flagsAfter =>
    cases hp
    exact ⟨rfl, contents.joined, number, flagsAfter⟩
  | inner => cases hp

/-- If it is not complete, the second has further groups to close. -/
theorem length_of_finish? (h : r.Within same f more w) (hr : r.finish? = none) : more.length < w.outer.length := by
  rw [h.stack.length]
  cases houter : r.outer with
  | nil =>
    unfold Reader.finish? at hr
    rw [houter] at hr
    cases hr
  | cons a outer => rw [List.length_cons]; omega

theorem changed? (h : r.Within same f more w) (letters : List Char) (behind : Char) :
    Option.Rel (Reader.Within same f more) (r.changed? letters behind) (w.changed? letters behind) := by
  unfold Reader.changed?
  have hflags := h.flags.change? letters
  generalize r.flags.change? letters = a at hflags ⊢
  generalize w.flags.change? letters = b at hflags ⊢
  cases hflags with
  | none => exact .none
  | some hab =>
    show Option.Rel _ (if _ then _ else if _ then _ else _) (if _ then _ else if _ then _ else _)
    split
    · exact .some (h.openPlain hab)
    split
    · exact .none
    · exact .some ((h.setFlags hab).push .flags)

end Reader.Within

end DependencyEvidence.Regex
