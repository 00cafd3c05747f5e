import DependencyEvidence.FileSystem
import Mathlib.Data.List.Basic

/-!
# Temporary files

A temporary file stands at a place where nothing was, behind all other entries (`adding`). Everything that could be found
before is found as before (`locate_adding`), also while the file is filled (`Aims.write_adding`, `Aims.copy_adding`); and
when it is discarded the file system is what it was, or the file stays if its directory does not let it go
(`Aims.discard_adding`).

`Aims` is what a path and a place have to do with each other so that a file can be written there: the path leads to the
directory of the place, and ends in its name. `exists_of_createTemporary` says all that making a temporary file does.
-/

namespace DependencyEvidence.FileSystem

/-! ## A further file -/

/-- The file system with a further file. -/
def adding (fs : FileSystem) (place : Location) (content : ByteArray) (permissions : Permissions) : FileSystem :=
  { fs with entries := fs.entries ++ [(place, .file content permissions)] }

variable {fs : FileSystem} {place q r : Location} {content : ByteArray} {permissions given : Permissions}
  {steps : List String} {p : Path}

theorem entry?_eq_none_iff : fs.entry? place = none ↔ place ≠ [] ∧ ∀ e ∈ fs.entries, e.1 ≠ place := by
  unfold entry?
  split
  · next h => simp [List.isEmpty_iff.1 h]
  · next h => simp [List.isEmpty_iff.not.1 h]

/-- Nothing else is found at the other places, and the file at its own. -/
theorem entry?_adding (h : fs.entry? q = none) (content : ByteArray) (permissions : Permissions) (place : Location) :
    FileSystem.entry? (fs.adding q content permissions) place =
      if place = q then some (.file content permissions) else fs.entry? place := by
  obtain ⟨hroot, hnone⟩ := entry?_eq_none_iff.1 h
  have hfind : fs.entries.find? (·.1 == q) = none := List.find?_eq_none.2 fun e he => by simpa using hnone e he
  unfold entry? adding
  by_cases hq : place = q
  · subst hq
    simp [hroot, hfind]
  · simp [hq, Ne.symm hq, List.find?_append]

/-- No directory comes or goes. -/
theorem isDirectoryAt_adding (h : fs.entry? q = none) (content : ByteArray) (permissions : Permissions)
    (place : Location) : (fs.adding q content permissions).isDirectoryAt place = fs.isDirectoryAt place := by
  unfold isDirectoryAt
  rw [entry?_adding h]
  by_cases hq : place = q
  · rw [if_pos hq, hq, h]
  · rw [if_neg hq]

theorem isAppendOnlyAt_adding (h : fs.entry? q = none) (content : ByteArray) (permissions : Permissions)
    (place : Location) : (fs.adding q content permissions).isAppendOnlyAt place = fs.isAppendOnlyAt place := by
  unfold isAppendOnlyAt
  rw [entry?_adding h]
  by_cases hq : place = q
  · rw [if_pos hq, hq, h]
  · rw [if_neg hq]

theorem contentAt_adding (h : fs.entry? q = none) (content : ByteArray) (permissions : Permissions)
    (place : Location) :
    (fs.adding q content permissions).contentAt place = if place = q then content else fs.contentAt place := by
  unfold contentAt
  rw [entry?_adding h]
  by_cases hq : place = q
  · rw [if_pos hq, if_pos hq]
  · rw [if_neg hq, if_neg hq]

/-- A file where nothing was. -/
theorem put_of_entry?_eq_none (h : fs.entry? q = none) (content : ByteArray) (permissions : Permissions) :
    fs.put q (.file content permissions) = fs.adding q content permissions := by
  have hnone : ¬fs.entries.any (·.1 == q) := fun hany => by
    obtain ⟨e, he, heq⟩ := List.any_eq_true.1 hany
    exact (entry?_eq_none_iff.1 h).2 e he (by simpa using heq)
  exact if_neg hnone

/-- A file over the one that is there. -/
theorem put_adding (h : fs.entry? q = none) (old content : ByteArray) (permissions given : Permissions) :
    (fs.adding q old permissions).put q (.file content given) = fs.adding q content given := by
  have hothers : fs.entries.map (fun e => if e.1 == q then (q, .file content given) else e) = fs.entries := by
    refine (List.map_congr_left fun e he => ?_).trans (List.map_id _)
    rw [if_neg (by simpa using (entry?_eq_none_iff.1 h).2 e he), id]
  have hany : (fs.adding q old permissions).entries.any (·.1 == q) := by simp [adding]
  refine (if_pos hany).trans ?_
  simp only [adding, List.map_append, hothers]
  simp

/-- Without the file, the file system is what it was. -/
theorem erase_adding (h : fs.entry? q = none) (content : ByteArray) (permissions : Permissions) :
    (fs.adding q content permissions).erase q = fs := by
  have hothers : ∀ e ∈ fs.entries, e.1 ≠ q := (entry?_eq_none_iff.1 h).2
  have hfilter : (fs.entries ++ [(q, Entry.file content permissions)]).filter (·.1 != q) = fs.entries := by
    rw [List.filter_append, List.filter_eq_self.2 fun e he => by simpa using hothers e he]
    simp
  unfold erase adding
  simp only [hfilter]

/-! ## Walking -/

theorem walk_append (fs : FileSystem) (place : Location) (steps more : List String) :
    fs.walk place (steps ++ more) = (fs.walk place steps).bind (fs.walk · more) := by
  induction steps generalizing place with
  | nil => rfl
  | cons step rest ih =>
    rw [List.cons_append, walk, walk]
    split
    · rfl
    split
    · exact ih place
    split
    · exact ih place.tail
    split
    · rfl
    cases fs.entry? (step :: place) with
    | none => rfl
    | some e => exact ih (step :: place)

/-- Every walk still leads where it led. -/
theorem walk_adding (h : fs.entry? q = none) (content : ByteArray) (permissions : Permissions)
    (hw : fs.walk place steps = .ok r) : (fs.adding q content permissions).walk place steps = .ok r := by
  induction steps generalizing place with
  | nil => exact hw
  | cons step rest ih =>
    rw [walk] at hw ⊢
    rw [isDirectoryAt_adding h]
    split at hw
    · cases hw
    next hdir =>
    rw [if_neg hdir]
    split at hw
    · next hidle => rw [if_pos hidle]; exact ih hw
    next hidle =>
    rw [if_neg hidle]
    split at hw
    · next hup => rw [if_pos hup]; exact ih hw
    next hup =>
    rw [if_neg hup]
    split at hw
    · cases hw
    next hlong =>
    rw [if_neg hlong, entry?_adding h]
    cases he : fs.entry? (step :: place) with
    | none => rw [he] at hw; cases hw
    | some e =>
      rw [he] at hw
      by_cases hq : step :: place = q
      · rw [hq, h] at he
        cases he
      · rw [if_neg hq]
        exact ih hw

/-- Every path still leads where it led. -/
theorem locate_adding (h : fs.entry? q = none) (content : ByteArray) (permissions : Permissions)
    (hp : fs.locate p = .ok r) : (fs.adding q content permissions).locate p = .ok r := by
  unfold locate at hp ⊢
  have hstart : (fs.adding q content permissions).start p = fs.start p := rfl
  rw [hstart]
  cases hs : fs.start p with
  | error e => rw [hs] at hp; cases hp
  | ok s =>
    rw [hs] at hp
    exact walk_adding h content permissions hp

/-- What a file that can be copied is. -/
theorem copyable_eq_ok_iff : fs.copyable p = .ok (r, permissions) ↔
    fs.locate p = .ok r ∧ fs.entry? r = some (.file (fs.contentAt r) permissions) ∧ permissions.rights.read = true := by
  unfold copyable contentAt
  cases fs.locate p with
  | error e => simp [bind, Except.bind]
  | ok place =>
    simp only [bind, Except.bind, Except.ok.injEq]
    rcases hentry : fs.entry? place with _ | (isAppendOnly | ⟨content, old⟩)
    · simp only [reduceCtorEq, false_iff, not_and]
      rintro rfl
      simp [hentry]
    · simp only [reduceCtorEq, false_iff, not_and]
      rintro rfl
      simp [hentry]
    · dsimp only
      split
      · next hread =>
        simp only [Except.ok.injEq, Prod.mk.injEq]
        constructor
        · rintro ⟨rfl, rfl⟩
          exact ⟨rfl, by rw [hentry], hread⟩
        · rintro ⟨rfl, h, -⟩
          rw [hentry] at h
          cases h
          exact ⟨rfl, rfl⟩
      · next hread =>
        simp only [reduceCtorEq, false_iff, not_and]
        rintro rfl h
        rw [hentry] at h
        cases h
        exact hread

/-- What can be read can be copied. -/
theorem read_eq_ok_iff :
    fs.read p = .ok content ↔
      ∃ place permissions, fs.copyable p = .ok (place, permissions) ∧ fs.contentAt place = content := by
  simp only [copyable_eq_ok_iff]
  unfold read contentAt
  cases fs.locate p with
  | error e => simp [bind, Except.bind]
  | ok place =>
    simp only [bind, Except.bind, Except.ok.injEq, exists_and_left, exists_eq_left', and_assoc]
    rcases hentry : fs.entry? place with _ | (isAppendOnly | ⟨old, permissions⟩)
    · simp
    · simp
    · by_cases hread : permissions.rights.read = true <;> simp [hread]

/-- Every file that could be copied is where it was and can be copied still. -/
theorem copyable_adding (h : fs.entry? q = none) (content : ByteArray) (permissions : Permissions)
    (hp : fs.copyable p = .ok (r, given)) :
    (fs.adding q content permissions).copyable p = .ok (r, given) ∧ r ≠ q := by
  obtain ⟨hlocate, hentry, hread⟩ := copyable_eq_ok_iff.1 hp
  have hr : r ≠ q := by
    rintro rfl
    rw [h] at hentry
    cases hentry
  refine ⟨copyable_eq_ok_iff.2 ⟨locate_adding h content permissions hlocate, ?_, hread⟩, hr⟩
  rw [entry?_adding h, contentAt_adding h, if_neg hr, if_neg hr, hentry]

/-- A walk leads to the file, or where it led before. -/
theorem walk_of_adding (h : fs.entry? q = none) (hw : (fs.adding q content permissions).walk place steps = .ok r) :
    r = q ∨ fs.walk place steps = .ok r := by
  induction steps generalizing place with
  | nil => exact .inr hw
  | cons step rest ih =>
    rw [walk, isDirectoryAt_adding h] at hw
    rw [walk]
    split at hw
    · cases hw
    next hdir =>
    rw [if_neg hdir]
    split at hw
    · next hidle => rw [if_pos hidle]; exact ih hw
    next hidle =>
    rw [if_neg hidle]
    split at hw
    · next hup => rw [if_pos hup]; exact ih hw
    next hup =>
    rw [if_neg hup]
    split at hw
    · cases hw
    next hlong =>
    rw [if_neg hlong]
    rw [entry?_adding h] at hw
    by_cases hq : step :: place = q
    · -- nothing lies behind a file
      rw [if_pos hq, hq] at hw
      cases rest with
      | nil => exact .inl (Except.ok.inj hw).symm
      | cons next more =>
        have hfile : fs.isDirectoryAt q = false := by rw [isDirectoryAt, h]
        rw [walk, isDirectoryAt_adding h, hfile] at hw
        cases hw
    · rw [if_neg hq] at hw
      cases he : fs.entry? (step :: place) with
      | none => rw [he] at hw; cases hw
      | some e => rw [he] at hw; exact ih hw

/-- A path leads to the file, or where it led before. -/
theorem locate_of_adding (h : fs.entry? q = none) (hp : (fs.adding q content permissions).locate p = .ok r) :
    r = q ∨ fs.locate p = .ok r := by
  unfold locate at hp ⊢
  have hstart : (fs.adding q content permissions).start p = fs.start p := rfl
  rw [hstart] at hp
  cases hs : fs.start p with
  | error e => rw [hs] at hp; cases hp
  | ok s =>
    rw [hs] at hp
    exact walk_of_adding h hp

/-- What can be copied is the file, or could be copied before. -/
theorem copyable_of_adding (h : fs.entry? q = none)
    (hp : (fs.adding q content permissions).copyable p = .ok (r, given)) : r = q ∨ fs.copyable p = .ok (r, given) := by
  obtain ⟨hlocate, hentry, hread⟩ := copyable_eq_ok_iff.1 hp
  by_cases hr : r = q
  · exact .inl hr
  · rw [entry?_adding h, contentAt_adding h, if_neg hr, if_neg hr] at hentry
    exact .inr (copyable_eq_ok_iff.2 ⟨(locate_of_adding h hlocate).resolve_left hr, hentry, hread⟩)

/-! ## Aims -/

/-- The path leads to the directory of the place `last :: parent`, and ends in its name. -/
structure Aims (fs : FileSystem) (p : Path) (last : String) (parent : Location) : Prop where
  exists_walk : ∃ place before, fs.start p = .ok (place, before ++ [last]) ∧ fs.walk place before = .ok parent
  directory : fs.isDirectoryAt parent = true
  name : last ≠ "" ∧ last ≠ "." ∧ last ≠ ".."
  short : last.utf8ByteSize ≤ nameLimit
  noDirectory : fs.isDirectoryAt (last :: parent) = false

namespace Aims

variable {last : String} {parent : Location}

/-- A file can be written there. -/
theorem target (ha : fs.Aims p last parent) : fs.target p = .ok (last :: parent) := by
  obtain ⟨⟨place, before, hstart, hwalk⟩, hdirectory, hname, hshort, hfree⟩ := ha
  have hdrop : (before ++ [last]).reverse.dropWhile (· = "") = last :: before.reverse := by
    rw [List.reverse_append, List.reverse_singleton, List.singleton_append,
      List.dropWhile_cons_of_neg (by simpa using hname.1)]
  unfold FileSystem.target
  rw [hstart]
  simp only [bind, Except.bind, hdrop, List.reverse_reverse, hwalk, hdirectory, List.getLast?_concat]
  simp [hname, hshort, hfree]

/-- The path leads to what is there. -/
theorem locate_eq (ha : fs.Aims p last parent) :
    fs.locate p = match fs.entry? (last :: parent) with
      | none => .error .absent
      | some _ => .ok (last :: parent) := by
  obtain ⟨⟨place, before, hstart, hwalk⟩, hdirectory, hname, hshort, -⟩ := ha
  have hstep : fs.walk parent [last] = match fs.entry? (last :: parent) with
      | none => .error .absent
      | some _ => .ok (last :: parent) := by
    cases hentry : fs.entry? (last :: parent) <;> simp [walk, hdirectory, hname, Nat.not_lt.2 hshort, hentry]
  unfold FileSystem.locate
  rw [hstart]
  refine (walk_append _ place before [last]).trans ?_
  rw [hwalk]
  exact hstep

/-- What is aimed at stays the same when it is there. -/
theorem adding (ha : fs.Aims p last parent) (h : fs.entry? (last :: parent) = none) (content : ByteArray)
    (permissions : Permissions) : (fs.adding (last :: parent) content permissions).Aims p last parent := by
  obtain ⟨⟨place, before, hstart, hwalk⟩, hdirectory, hname, hshort, hfree⟩ := ha
  exact ⟨⟨place, before, hstart, walk_adding h content permissions hwalk⟩,
    (isDirectoryAt_adding h content permissions _).trans hdirectory, hname, hshort,
    (isDirectoryAt_adding h content permissions _).trans hfree⟩

/-- The path leads to the file. -/
theorem locate_adding (ha : fs.Aims p last parent) (h : fs.entry? (last :: parent) = none) (content : ByteArray)
    (permissions : Permissions) : (fs.adding (last :: parent) content permissions).locate p = .ok (last :: parent) := by
  rw [(ha.adding h content permissions).locate_eq, entry?_adding h, if_pos rfl]

/-- What the file holds can be read as far as its permissions allow. -/
theorem read_adding (ha : fs.Aims p last parent) (h : fs.entry? (last :: parent) = none) (content : ByteArray)
    (permissions : Permissions) :
    (fs.adding (last :: parent) content permissions).read p =
      if permissions.rights.read then .ok content else .error .denied := by
  unfold FileSystem.read
  rw [ha.locate_adding h]
  simp [bind, Except.bind, entry?_adding h]

/-! ### Filling it -/

/-- The program can write its own file. -/
theorem writable_adding (ha : fs.Aims p last parent) (h : fs.entry? (last :: parent) = none) (content : ByteArray) :
    (fs.adding (last :: parent) content .confidential).writable p = .ok (last :: parent, .confidential) := by
  unfold FileSystem.writable
  rw [(ha.adding h content .confidential).target]
  simp only [bind, Except.bind, entry?_adding h, if_true]
  rfl

/-- A text over the one that is there. -/
theorem write_adding (ha : fs.Aims p last parent) (h : fs.entry? (last :: parent) = none) (old new : ByteArray) :
    (fs.adding (last :: parent) old .confidential).write p new =
      .ok (fs.adding (last :: parent) new .confidential) := by
  unfold FileSystem.write
  rw [ha.writable_adding h]
  exact congrArg Except.ok (put_adding h old new _ _)

variable {source : Path} {origin : Location}

/-- A file that could be copied before is copied, with its permissions. -/
theorem copy_adding (ha : fs.Aims p last parent) (h : fs.entry? (last :: parent) = none) (old : ByteArray)
    (hsource : fs.copyable source = .ok (origin, given)) :
    (fs.adding (last :: parent) old .confidential).copy source p =
      (.ok (), fs.adding (last :: parent) (fs.contentAt origin) given.ofCopy) := by
  obtain ⟨hsource, horigin⟩ := copyable_adding h old .confidential hsource
  have howner : Permissions.confidential.role = .owner := rfl
  unfold copy
  simp only [hsource, ha.writable_adding h, put_adding h, contentAt_adding h, if_neg horigin, if_pos howner]

/-- What could not be copied before is not copied, or it is the file itself, which then is empty. -/
theorem copy_adding_of_error {e : FileError} (ha : fs.Aims p last parent) (h : fs.entry? (last :: parent) = none)
    (old : ByteArray) (hsource : fs.copyable source = .error e) :
    (∃ e', (fs.adding (last :: parent) old .confidential).copy source p =
      (.error e', fs.adding (last :: parent) old .confidential)) ∨
    (fs.adding (last :: parent) old .confidential).copy source p =
      (.ok (), fs.adding (last :: parent) .empty .confidential) := by
  cases hcopyable : (fs.adding (last :: parent) old .confidential).copyable source with
  | error e' => exact .inl ⟨e', by simp only [copy, hcopyable]⟩
  | ok found =>
    obtain ⟨origin, given⟩ := found
    have horigin : origin = last :: parent := by
      refine (copyable_of_adding h hcopyable).resolve_right fun hp => ?_
      rw [hsource] at hp
      cases hp
    have hgiven : given = .confidential := by
      have hentry := (copyable_eq_ok_iff.1 hcopyable).2.1
      rw [horigin, entry?_adding h, if_pos rfl] at hentry
      exact (Entry.file.inj (Option.some.inj hentry)).2.symm
    have howner : Permissions.confidential.role = .owner := rfl
    have hsame : Permissions.confidential.ofCopy = .confidential := rfl
    refine .inr ?_
    unfold copy
    simp only [hcopyable, ha.writable_adding h, put_adding h, contentAt_adding h, if_pos horigin, if_pos howner, hgiven,
      hsame]

/-! ### Removing it -/

/-- Removing the file leaves what was there before, unless its directory keeps it. -/
theorem discard_adding (ha : fs.Aims p last parent) (h : fs.entry? (last :: parent) = none) (content : ByteArray)
    (permissions : Permissions) :
    (fs.adding (last :: parent) content permissions).discard p =
      if fs.isAppendOnlyAt parent then fs.adding (last :: parent) content permissions else fs := by
  have hfile := (ha.adding h content permissions).noDirectory
  unfold discard release
  rw [ha.locate_adding h]
  simp only [bind, Except.bind, hfile, List.tail_cons, isAppendOnlyAt_adding h, Bool.false_eq_true, if_false]
  cases fs.isAppendOnlyAt parent with
  | true => rfl
  | false => exact erase_adding h content permissions

end Aims

/-- A list that does not end in what is dropped from its end is the rest of it with its last element. -/
theorem eq_concat_of_dropWhile_reverse {last : String} {before : List String}
    (hdrop : steps.reverse.dropWhile (· = "") = last :: before) (hlast : steps.getLast? ≠ some "") :
    steps = before.reverse ++ [last] := by
  rcases List.eq_nil_or_concat steps with rfl | ⟨front, final, rfl⟩
  · cases hdrop
  · have hfinal : final ≠ "" := by simpa using hlast
    rw [List.concat_eq_append, List.reverse_append, List.reverse_singleton, List.singleton_append,
      List.dropWhile_cons_of_neg (by simpa using hfinal)] at hdrop
    cases hdrop
    rw [List.concat_eq_append, List.reverse_reverse]

/-- A path that a file can be written at aims at a place. -/
theorem exists_aims_of_target (h : fs.target p = .ok q) : ∃ last parent, q = last :: parent ∧ fs.Aims p last parent := by
  unfold target at h
  cases hstart : fs.start p with
  | error e => rw [hstart] at h; cases h
  | ok s =>
    obtain ⟨place, steps⟩ := s
    rw [hstart] at h
    dsimp only [bind, Except.bind] at h
    cases hdrop : steps.reverse.dropWhile (· = "") with
    | nil => rw [hdrop] at h; cases h
    | cons last before =>
      rw [hdrop] at h
      dsimp only at h
      cases hwalk : fs.walk place before.reverse with
      | error e => rw [hwalk] at h; cases h
      | ok parent =>
        rw [hwalk] at h
        dsimp only at h
        split at h
        · cases h
        next hdirectory =>
        split at h
        · cases h
        next hname =>
        split at h
        · cases h
        next hshort =>
        split at h
        · cases h
        next hfree =>
        obtain ⟨hlast, hdot, hup⟩ := not_or.1 hname |>.imp_right not_or.1
        have hsteps : steps = before.reverse ++ [last] := eq_concat_of_dropWhile_reverse hdrop hlast
        refine ⟨last, parent, (Except.ok.inj h).symm, ⟨place, before.reverse, hsteps ▸ hstart, hwalk⟩,
          by simpa using hdirectory, ⟨?_, hdot, hup⟩, Nat.not_lt.1 hshort, by simpa using hfree⟩
        rintro rfl
        exact hlast (by rw [hsteps, List.getLast?_concat])

/-! ## Making one -/

/-- A temporary file is an empty one where nothing was, and belongs to the program. -/
theorem exists_of_createTemporary {directory : Path} {head tail : String} {made : FileSystem}
    (h : fs.createTemporary directory head tail = .ok (p, made)) :
    ∃ last parent, fs.entry? (last :: parent) = none ∧ fs.Aims p last parent ∧
      made = fs.adding (last :: parent) .empty .confidential := by
  unfold createTemporary at h
  dsimp only at h
  split at h
  · next free hfind =>
    have hfree : fs.pathExists free = false := by simpa using List.find?_some hfind
    cases htarget : fs.target free with
    | error e => rw [htarget] at h; cases h
    | ok q =>
      rw [htarget] at h
      cases h
      obtain ⟨last, parent, rfl, ha⟩ := exists_aims_of_target htarget
      have hnone : fs.entry? (last :: parent) = none := by
        rw [pathExists, ha.locate_eq] at hfree
        cases he : fs.entry? (last :: parent) with
        | none => rfl
        | some e => rw [he] at hfree; cases hfree
      exact ⟨last, parent, hnone, ha, put_of_entry?_eq_none hnone .empty .confidential⟩
  · cases h

end DependencyEvidence.FileSystem
