import DependencyEvidence.Hints.Load
import DependencyEvidence.Proofs.FileSystem.Temporary

/-!
# What loading gives, and what it leaves behind

A location holds a document (`RuleSet.document?`): what a URL brings, what a file holds, or what is built in. Loading
gives the rules of the base document and behind them those of the document at the location, or nothing but an error; it
leaves the file system as it was, but for a temporary file that cannot be removed; and a URL of a file loads what the
path of the file loads, if the owner of the file may read it (`RuleSet.loadOver_outcome`). A copy of a file has the
permissions of the file, but it belongs to the program; so the program may be free to read a file and not its copy.

Between the two stands what a filling does to the temporary file (`RuleSet.Fills`). It may succeed with what the
location holds, or fail and leave anything; it may succeed and make the file unreadable; and there is one further case,
a URL of the temporary file itself, which is emptied before it is read. An empty text is no document, so that this ends
in an error as well (`RuleSet.not_reads_empty`).
-/

namespace DependencyEvidence

open FileSystem

/-! ## What locations hold -/

/-- What a request brings, if nothing is missing. -/
def Network.complete? (net : Network) (mode : FetchMode) (url : String) : Option ByteArray :=
  match net mode url with
  | .content bytes true => some bytes
  | _ => .none

/-- Whether a file that the program may read is one that its owner may read. -/
def FileSystem.ownerReads (fs : FileSystem) (p : Path) : Bool :=
  match fs.copyable p with
  | .ok (_, permissions) => permissions.owner.read
  | .error _ => false

/-- What is read of a copy of a file. The copy belongs to the program. -/
def FileSystem.readCopy? (fs : FileSystem) (p : Path) : Option ByteArray :=
  if fs.ownerReads p then (fs.read p).toOption else none

namespace RuleSet

/-- What a URL brings: what is read of a copy of a file, or what comes past all proxies or else through one. -/
def fetched? (net : Network) (fs : FileSystem) (url : String) : Option ByteArray :=
  match Url.parse? url with
  | .none => .none
  | some (.file source) => fs.readCopy? source
  | some (.unspelled _) => .none
  | some .elsewhere => (net.complete? .direct url).or (net.complete? .relaxed url)

/-- Whether a temporary file can be made. -/
def hasTemporary (fs : FileSystem) (s : Settings) : Bool :=
  (fs.createTemporary (s.temporaryDirectory.getD fs.temporaryDirectory) "hint" ".xml").toBool

/-- What a location holds. What is fetched or built in is there only if a temporary file can be made. -/
def document? (net : Network) (fs : FileSystem) (s : Settings) (location : String) : Option ByteArray :=
  if isUrlLocation location then if hasTemporary fs s then fetched? net fs location else none
  else if fs.pathExists ⟨location⟩ then (fs.read ⟨location⟩).toOption
  else if hasTemporary fs s then (builtin? location).map String.toUTF8 else none

/-- The place of the next temporary file. -/
def nextTemporary? (fs : FileSystem) (s : Settings) : Option Location :=
  match fs.createTemporary (s.temporaryDirectory.getD fs.temporaryDirectory) "hint" ".xml" with
  | .ok (p, _) => (fs.target p).toOption
  | .error _ => none

/-- What is left behind of a temporary file at a place where nothing was: the file, if its directory lets nothing go,
and nothing otherwise. If there was none, nothing is left behind. -/
def Leaves (fs : FileSystem) (place? : Option Location) (after : FileSystem) : Prop :=
  (∀ place, place? = some place → fs.entry? place = none) ∧
    ∃ content permissions, after = match place? with
      | some place => if fs.isAppendOnlyAt place.tail then fs.adding place content permissions else fs
      | none => fs

/-- The rules in what a location holds. -/
def Reads (content? : Option ByteArray) (r : RuleSet) : Prop :=
  ∃ bytes text, content? = some bytes ∧ String.fromUTF8? bytes = some text ∧ ofText text = .ok r

/-! ## Reading files -/

/-- Reads a document, which is said to be in a file. -/
def ofBytes (p : Path) (bytes : ByteArray) : Except LoadError RuleSet :=
  match String.fromUTF8? bytes with
  | some text => (ofText text).mapError .document
  | none => .error (.unreadable p .invalidData)

/-- Reads a document, which is said to be in a file of the program. -/
def ofOwnFile (p : Path) (bytes : ByteArray) (permissions : Permissions) : Except LoadError RuleSet :=
  if permissions.rights.read then ofBytes p bytes else .error (.unreadable p .denied)

variable {net : Network} {fs : FileSystem} {s : Settings} {p : Path} {bytes old : ByteArray} {r : RuleSet}
  {permissions : Permissions}
  {fill : FileSystem → Path → Except LoadError Unit × FileSystem} {content? : Option ByteArray}
  {last location : String} {parent : Location}

theorem ofFile_of_read (h : fs.read p = .ok bytes) : ofFile fs p = ofBytes p bytes := by
  unfold ofFile readText
  rw [h]
  simp only [bind, Except.bind, ofBytes]
  cases String.fromUTF8? bytes <;> rfl

theorem ofFile_of_read_error {e : FileError} (h : fs.read p = .error e) : ofFile fs p = .error (.unreadable p e) := by
  unfold ofFile readText
  rw [h]
  rfl

/-- Reading a temporary file gives what is in it, if it can be read. -/
theorem ofFile_adding (h : fs.entry? (last :: parent) = none) (ha : fs.Aims p last parent) :
    ofFile (fs.adding (last :: parent) bytes permissions) p = ofOwnFile p bytes permissions := by
  have hread := ha.read_adding h bytes permissions
  unfold ofOwnFile
  split at hread
  · next hmay => rw [if_pos hmay, ofFile_of_read hread]
  · next hmay => rw [if_neg hmay, ofFile_of_read_error hread]

theorem ofBytes_eq_ok_iff : ofBytes p bytes = .ok r ↔ Reads (some bytes) r := by
  unfold ofBytes
  cases htext : String.fromUTF8? bytes with
  | none => simp [Reads, htext]
  | some text => cases hr : ofText text <;> simp [Reads, htext, hr, Except.mapError]

/-- Reading a file gives the rules in what it holds. -/
theorem ofFile_eq_ok_iff : ofFile fs p = .ok r ↔ Reads (fs.read p).toOption r := by
  cases h : fs.read p with
  | ok bytes => rw [ofFile_of_read h, ofBytes_eq_ok_iff]; rfl
  | error e => simp [ofFile_of_read_error h, Reads, Except.toOption]

/-- An empty file holds no document. -/
theorem not_reads_empty : ¬Reads (some .empty) r := by
  rintro ⟨bytes, text, h, htext, hr⟩
  cases h
  have hempty : text = "" := by
    have h : String.fromUTF8? .empty = some "" := rfl
    exact (Option.some.inj (h.symm.trans htext)).symm
  rw [hempty] at hr
  cases hr

/-! ## Filling a temporary file -/

/-- How a file can be filled with some content: with success only if it then holds that content and can be read, or if
nothing was to be had and it is left empty or cannot be read. -/
inductive Filled {ε : Type} : Option ByteArray → Except ε Unit → ByteArray → Permissions → Prop
  | complete (bytes : ByteArray) {permissions : Permissions} (readable : permissions.rights.read = true) :
      Filled (some bytes) (.ok ()) bytes permissions
  | failed (e : ε) (bytes : ByteArray) (permissions : Permissions) : Filled none (.error e) bytes permissions
  | emptied (permissions : Permissions) : Filled none (.ok ()) .empty permissions
  | closed (bytes : ByteArray) {permissions : Permissions} (unreadable : permissions.rights.read = false) :
      Filled none (.ok ()) bytes permissions

/-- What a filling does to an empty file where nothing was. -/
def Fills (fs : FileSystem) (fill : FileSystem → Path → Except LoadError Unit × FileSystem)
    (content? : Option ByteArray) : Prop :=
  ∀ p last parent, fs.entry? (last :: parent) = none → fs.Aims p last parent →
    ∃ done bytes permissions, fill (fs.adding (last :: parent) .empty .confidential) p =
        (done, fs.adding (last :: parent) bytes permissions) ∧ Filled content? done bytes permissions

theorem readCopy?_of_copyable {source : Path} {origin : Location}
    (h : fs.copyable source = .ok (origin, permissions)) :
    fs.readCopy? source = if permissions.owner.read then some (fs.contentAt origin) else none := by
  have hread : fs.read source = .ok (fs.contentAt origin) := read_eq_ok_iff.2 ⟨origin, permissions, h, rfl⟩
  rw [readCopy?, ownerReads, h, hread]
  rfl

theorem readCopy?_of_error {source : Path} {e : FileError} (h : fs.copyable source = .error e) :
    fs.readCopy? source = none := by
  rw [readCopy?, ownerReads, h]
  rfl

/-- Fetching a file brings what it holds, with its permissions; fetching the temporary file itself empties it; and what
cannot be fetched changes nothing. -/
theorem fetchOver_of_file (net : Network) (mode : FetchMode) {source : Path} (h : fs.entry? (last :: parent) = none)
    (ha : fs.Aims p last parent) (hurl : Url.parse? location = some (.file source)) :
    (∃ e, (fs.adding (last :: parent) .empty .confidential).fetchOver net mode location p =
        (.error e, fs.adding (last :: parent) .empty .confidential) ∧ fs.readCopy? source = none) ∨
    ∃ bytes permissions, (fs.adding (last :: parent) .empty .confidential).fetchOver net mode location p =
        (.ok (), fs.adding (last :: parent) bytes permissions) ∧
      Filled (fs.readCopy? source) (.ok () : Except LoadError Unit) bytes permissions := by
  unfold fetchOver
  rw [hurl]
  cases hsource : fs.copyable source with
  | ok found =>
    obtain ⟨origin, given⟩ := found
    have hcopy := ha.copy_adding h .empty hsource
    refine .inr ⟨fs.contentAt origin, given.ofCopy, by simp only [hcopy]; rfl, ?_⟩
    rw [readCopy?_of_copyable hsource]
    cases howner : given.owner.read with
    | true => exact .complete _ howner
    | false => exact .closed _ howner
  | error e =>
    rw [readCopy?_of_error hsource]
    rcases ha.copy_adding_of_error h .empty hsource with ⟨e', hcopy⟩ | hcopy
    · exact .inl ⟨.file source e', by simp only [hcopy]; rfl, rfl⟩
    · exact .inr ⟨.empty, .confidential, by simp only [hcopy]; rfl, .emptied _⟩

/-- What a network delivers is written to the file. -/
theorem fetchOver_of_elsewhere (net : Network) (mode : FetchMode) (old : ByteArray)
    (h : fs.entry? (last :: parent) = none)
    (ha : fs.Aims p last parent) (hurl : Url.parse? location = some .elsewhere) :
    ∃ done bytes, (fs.adding (last :: parent) old .confidential).fetchOver net mode location p =
        (done, fs.adding (last :: parent) bytes .confidential) ∧
      (net.complete? mode location = some bytes ∧ done = .ok () ∨
        net.complete? mode location = none ∧ ∃ e, done = .error e) := by
  unfold fetchOver Network.complete?
  rw [hurl]
  cases net mode location with
  | nothing => exact ⟨_, _, rfl, .inr ⟨rfl, _, rfl⟩⟩
  | content bytes complete =>
    dsimp only
    rw [ha.write_adding h]
    cases complete with
    | true => exact ⟨_, bytes, rfl, .inl ⟨rfl, rfl⟩⟩
    | false => exact ⟨_, bytes, rfl, .inr ⟨rfl, _, rfl⟩⟩

/-- A success at the first attempt is the end. -/
theorem download_of_ok {fs' : FileSystem} (h : fs.fetchOver net .direct location p = (.ok (), fs')) :
    download net location fs p = (.ok (), fs') := by
  rw [download, h]

/-- After a failure, the second attempt counts. -/
theorem download_of_error {fs₁ fs₂ : FileSystem} {e : FetchError} {done : Except FetchError Unit}
    (h : fs.fetchOver net .direct location p = (.error e, fs₁))
    (hsecond : fs₁.fetchOver net .relaxed location p = (done, fs₂)) :
    download net location fs p = (done.mapError .fetch, fs₂) := by
  rw [download, h]
  simp only [hsecond]

/-- Two attempts bring what the URL brings. -/
theorem fills_download (net : Network) (fs : FileSystem) (location : String) :
    Fills fs (download net location) (fetched? net fs location) := by
  intro p last parent h ha
  unfold fetched?
  cases hurl : Url.parse? location with
  | none =>
    exact ⟨.error (.fetch (.invalidUrl location)), .empty, .confidential,
      by simp only [download, fetchOver, hurl]; rfl, .failed _ _ _⟩
  | some url =>
    cases url with
    | file source =>
      rcases fetchOver_of_file net .direct h ha hurl with ⟨e, hfirst, -⟩ | ⟨bytes, permissions, hfirst, hfilled⟩
      · rcases fetchOver_of_file net .relaxed h ha hurl with
          ⟨e', hsecond, hnone⟩ | ⟨bytes, permissions, hsecond, hfilled⟩
        · exact ⟨_, _, _, download_of_error hfirst hsecond, hnone ▸ .failed _ _ _⟩
        · exact ⟨_, _, _, download_of_error hfirst hsecond, hfilled⟩
      · exact ⟨_, _, _, download_of_ok hfirst, hfilled⟩
    | unspelled path =>
      exact ⟨_, .empty, .confidential, by simp only [download, fetchOver, hurl]; rfl, .failed _ _ _⟩
    | elsewhere =>
      obtain ⟨done, bytes, hfirst, ⟨hnet, rfl⟩ | ⟨hnet, e, rfl⟩⟩ :=
        fetchOver_of_elsewhere net .direct .empty h ha hurl
      · exact ⟨_, _, _, download_of_ok hfirst, by rw [hnet]; exact .complete _ rfl⟩
      · obtain ⟨done, bytes, hsecond, ⟨hnet', rfl⟩ | ⟨hnet', e, rfl⟩⟩ :=
          fetchOver_of_elsewhere net .relaxed bytes h ha hurl
        · exact ⟨_, _, _, download_of_error hfirst hsecond, by rw [hnet, hnet']; exact .complete _ rfl⟩
        · exact ⟨_, _, _, download_of_error hfirst hsecond, by rw [hnet, hnet']; exact .failed _ _ _⟩

theorem fills_unpack {text : String} : Fills fs (unpack text) (some text.toUTF8) := by
  intro p last parent h ha
  refine ⟨.ok (), text.toUTF8, .confidential, ?_, .complete _ rfl⟩
  rw [unpack, ha.write_adding h]

/-! ## Through a temporary file -/

theorem Filled.reads_iff {done : Except LoadError Unit} (h : Filled content? done bytes permissions) :
    Reads content? r ↔ done = .ok () ∧ permissions.rights.read = true ∧ Reads (some bytes) r := by
  cases h with
  | complete _ readable => simp [readable]
  | failed => simp [Reads]
  | emptied => exact iff_of_false (by simp [Reads]) fun h => not_reads_empty h.2.2
  | closed _ unreadable => simp [Reads, unreadable]

/-- A temporary file is filled, read, and removed unless its directory keeps it. -/
theorem exists_of_hasTemporary (hfill : Fills fs fill content?) (ht : hasTemporary fs s) :
    ∃ p place done bytes permissions, nextTemporary? fs s = some place ∧ fs.entry? place = none ∧
      Filled content? done bytes permissions ∧
      throughTemporary fs s fill = (done.bind fun _ => ofOwnFile p bytes permissions,
        if fs.isAppendOnlyAt place.tail then fs.adding place bytes permissions else fs) := by
  unfold hasTemporary at ht
  unfold throughTemporary nextTemporary?
  cases hmake : fs.createTemporary (s.temporaryDirectory.getD fs.temporaryDirectory) "hint" ".xml" with
  | error e => rw [hmake] at ht; cases ht
  | ok made =>
    obtain ⟨p, made⟩ := made
    obtain ⟨last, parent, h, ha, rfl⟩ := exists_of_createTemporary hmake
    obtain ⟨done, bytes, permissions, hdone, hfilled⟩ := hfill p last parent h ha
    have hdiscard := ha.discard_adding h bytes permissions
    refine ⟨p, last :: parent, done, bytes, permissions, by simp only [ha.target, Except.toOption], h, hfilled, ?_⟩
    simp only [hdone]
    cases done with
    | error e => exact Prod.ext rfl hdiscard
    | ok => exact Prod.ext (ofFile_adding h ha) hdiscard

theorem throughTemporary_of_not_hasTemporary (fill : FileSystem → Path → Except LoadError Unit × FileSystem)
    (ht : ¬hasTemporary fs s) :
    nextTemporary? fs s = none ∧ ∃ e, throughTemporary fs s fill = (.error e, fs) := by
  unfold hasTemporary at ht
  unfold throughTemporary nextTemporary?
  cases hmake : fs.createTemporary (s.temporaryDirectory.getD fs.temporaryDirectory) "hint" ".xml" with
  | error e => exact ⟨rfl, _, rfl⟩
  | ok made => exact absurd (by rw [hmake]; rfl) ht

/-- A temporary file gives the rules in what it is filled with. -/
theorem throughTemporary_eq_ok_iff (hfill : Fills fs fill content?) :
    (throughTemporary fs s fill).1 = .ok r ↔ Reads (if hasTemporary fs s then content? else none) r := by
  by_cases ht : hasTemporary fs s
  · obtain ⟨p, place, done, bytes, permissions, -, -, hfilled, h⟩ := exists_of_hasTemporary hfill ht
    rw [h, if_pos ht, hfilled.reads_iff, ← ofBytes_eq_ok_iff (p := p)]
    cases done with
    | error e => simp [Except.bind]
    | ok => cases hread : permissions.rights.read <;> simp [Except.bind, ofOwnFile, hread]
  · obtain ⟨-, e, h⟩ := throughTemporary_of_not_hasTemporary fill ht
    rw [h, if_neg ht]
    simp [Reads]

/-! ## At a location -/

theorem read_of_not_pathExists (h : ¬fs.pathExists p) : (fs.read p).toOption = none := by
  unfold pathExists at h
  unfold FileSystem.read
  cases hlocate : fs.locate p with
  | error e => rfl
  | ok place => rw [hlocate] at h; exact absurd rfl h

/-- What a location holds is read, and nothing is left of it. -/
theorem ofLocation_eq_ok_iff : (ofLocation net fs s location).1 = .ok r ↔ Reads (document? net fs s location) r := by
  unfold ofLocation document?
  split
  · exact throughTemporary_eq_ok_iff (fills_download net fs location)
  split
  · exact ofFile_eq_ok_iff
  next hmissing =>
  cases builtin? location with
  | some text => exact throughTemporary_eq_ok_iff fills_unpack
  | none => rw [Option.map_none, ite_self, ← read_of_not_pathExists hmissing]; exact ofFile_eq_ok_iff

variable {u : String}

variable {base : String}

/-- Without a location, there are the rules of the base document. -/
theorem loadOver_of_none (h : s.hintFile = none) : loadOver net fs s base = ((ofText base).mapError .document, fs) := by
  unfold loadOver
  cases ofText base with
  | error e => rfl
  | ok b => rw [h]; rfl

/-- With a location, the rules there follow those of the base document. -/
theorem loadOver_of_hintFile (h : s.hintFile = some location) :
    loadOver net fs s base = match ofText base with
      | .error e => (.error (.document e), fs)
      | .ok b => ((ofLocation net fs s location).1.map b.append, (ofLocation net fs s location).2) := by
  unfold loadOver
  cases ofText base with
  | error e => rfl
  | ok b => simp only [h]

/-- What is loaded, and when. -/
theorem loadOver_eq_ok_iff :
    (loadOver net fs s base).1 = .ok r ↔
      ∃ b, ofText base = .ok b ∧ (s.hintFile = none ∧ r = b ∨
        ∃ location x, s.hintFile = some location ∧ Reads (document? net fs s location) x ∧ r = b.append x) := by
  cases hs : s.hintFile with
  | none =>
    rw [loadOver_of_none hs]
    cases hb : ofText base <;> simp [Except.mapError, eq_comm]
  | some location =>
    rw [loadOver_of_hintFile hs]
    cases hb : ofText base with
    | error e => simp
    | ok b =>
      simp only [Except.ok.injEq, exists_eq_left', reduceCtorEq, false_and, false_or, Option.some.injEq]
      simp only [← ofLocation_eq_ok_iff]
      cases hl : (ofLocation net fs s location).1 <;> simp [Except.map, hl, eq_comm]

theorem fromUTF8?_toUTF8 (text : String) : String.fromUTF8? text.toUTF8 = some text := by
  simp only [String.fromUTF8?, String.toUTF8_eq_toByteArray, dif_pos (String.isValidUTF8 _)]
  rfl

end RuleSet

end DependencyEvidence
