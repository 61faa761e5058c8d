import Gloo.Rendezvous.Store

set_option autoImplicit false

/-! # Path resolution for the file store

`FileStore::realPath(key)` is `basePath_ + "/" + key`, and every system call of the store gets
`path.c_str()`. A key is therefore not a file name but a piece of a path: the kernel reads the
string up to its first NUL byte, splits it at every `/`, and walks the pieces from the root,
skipping empty ones and `.`, going up on `..`, and requiring every piece but the last to name a
directory (POSIX pathname resolution; the store creates no symbolic links, so none are
followed). A relative `basePath_` resolves from the working directory, taken here as the root.

`resolve` returns a `Target`: the path of the final entry and whether the path demands a
directory there (a trailing slash, or a final `.` or `..`). The three system calls the store
makes on a target are `stat`, `openRead` (`std::ifstream`) and `openWrite` (`std::ofstream`,
which creates or truncates a regular file).

The main facts: `resolve_plain`, a key that is one plain name resolves to the file of that name
in the base directory; and `descendAll_of_dirs`, the walk reads only directories, so a write
that keeps every directory keeps every resolution that succeeded. -/

namespace Gloo.Rendezvous

/-! ## Errors and limits -/

/-- `errno` values of the file system calls (Linux numbering). -/
def ENOENT : Errno := ⟨2⟩
def ENOTDIR : Errno := ⟨20⟩
def EISDIR : Errno := ⟨21⟩
def EINVAL : Errno := ⟨22⟩
def EEXIST : Errno := ⟨17⟩
def ENAMETOOLONG : Errno := ⟨36⟩

/-- The longest path component Linux accepts, in bytes. -/
def NAME_MAX : Nat := 255

/-- The size Linux allows a path, in bytes with its terminating NUL. -/
def PATH_MAX : Nat := 4096

/-! ## Splitting at slashes -/

/-- The pieces of a path between its slashes, in order: `"/a//b/"` gives `""`, `"a"`, `""`,
    `"b"`, `""`. -/
def components : List Char → List (List Char)
  | [] => [[]]
  | c :: cs =>
    if c = '/' then [] :: components cs
    else match components cs with
      | [] => [[c]]
      | piece :: pieces => (c :: piece) :: pieces

theorem components_ne_nil (cs : List Char) : components cs ≠ [] := by
  cases cs with
  | nil => simp [components]
  | cons c cs =>
    simp only [components]
    split
    · simp
    · split <;> simp

theorem components_of_no_slash {cs : List Char} (h : '/' ∉ cs) : components cs = [cs] := by
  induction cs with
  | nil => rfl
  | cons c cs ih =>
    simp only [List.mem_cons, not_or] at h
    simp only [components, if_neg (Ne.symm h.1), ih h.2]

theorem components_append_slash (a b : List Char) :
    components (a ++ '/' :: b) = components a ++ components b := by
  induction a with
  | nil => rfl
  | cons c a ih =>
    rw [List.cons_append]
    by_cases hc : c = '/'
    · simp only [components, if_pos hc, ih, List.cons_append]
    · obtain ⟨piece, pieces, hcs⟩ := List.exists_cons_of_ne_nil (components_ne_nil a)
      simp only [components, if_neg hc, ih, hcs, List.cons_append]

/-! ## `c_str()` and `realPath` -/

/-- The NUL character, where `c_str()` ends the string a system call reads. -/
def nul : Char := Char.ofNat 0

/-- The path a system call receives from `path.c_str()`: the string up to its first NUL. -/
def cStr (s : String) : List Char := s.toList.takeWhile (· != nul)

/-- `FileStore::realPath`. -/
def realPath (basePath key : String) : String := basePath ++ "/" ++ key

theorem toList_realPath (basePath key : String) :
    (realPath basePath key).toList = basePath.toList ++ '/' :: key.toList := by
  simp only [realPath, String.toList, String.data_append, List.append_assoc]
  rfl

/-- Distinct keys have distinct paths. -/
theorem realPath_inj {basePath a b : String} : realPath basePath a = realPath basePath b ↔ a = b := by
  refine ⟨fun h => String.ext ?_, fun h => h ▸ rfl⟩
  have := congrArg String.toList h
  rw [toList_realPath, toList_realPath] at this
  simpa [String.toList] using this

theorem cStr_realPath {basePath key : String} (hb : nul ∉ basePath.toList)
    (hk : nul ∉ key.toList) : cStr (realPath basePath key) = (realPath basePath key).toList := by
  rw [cStr, List.takeWhile_eq_self_iff]
  intro c hc
  rw [toList_realPath] at hc
  simp only [List.mem_append, List.mem_cons] at hc
  rcases hc with h | rfl | h
  · exact bne_iff_ne.2 (fun e => hb (e ▸ h))
  · decide
  · exact bne_iff_ne.2 (fun e => hk (e ▸ h))

/-! ## The walk -/

/-- Where a resolution ends: the path of the final entry, and whether the path demands a
    directory there. -/
structure Target where
  path : Path
  mustBeDir : Bool
  deriving DecidableEq, Repr

/-- The byte length of a piece of a path. -/
def byteLength (cs : List Char) : Nat := (String.mk cs).utf8ByteSize

/-- Walk through a piece that is not the last, from the directory `cur`. -/
def descend (fs : Fs) (cur : Path) (c : List Char) : Except Errno Path :=
  if c = [] ∨ c = ['.'] then .ok cur
  else if c = ['.', '.'] then .ok cur.dropLast
  else if NAME_MAX < byteLength c then .error ENAMETOOLONG
  else match fs (cur ++ [String.mk c]) with
    | some .dir => .ok (cur ++ [String.mk c])
    | some (.file _) => .error ENOTDIR
    | none => .error ENOENT

/-- Walk through every piece of `cs` as a directory. -/
def descendAll (fs : Fs) : Path → List (List Char) → Except Errno Path
  | cur, [] => .ok cur
  | cur, c :: cs => match descend fs cur c with
    | .ok next => descendAll fs next cs
    | .error e => .error e

/-- The last piece, from the directory `cur`. -/
def finish (cur : Path) (c : List Char) : Except Errno Target :=
  if c = [] ∨ c = ['.'] then .ok ⟨cur, true⟩
  else if c = ['.', '.'] then .ok ⟨cur.dropLast, true⟩
  else if NAME_MAX < byteLength c then .error ENAMETOOLONG
  else .ok ⟨cur ++ [String.mk c], false⟩

theorem descendAll_append (fs : Fs) (cur : Path) (a b : List (List Char)) :
    descendAll fs cur (a ++ b) = descendAll fs cur a >>= fun dir => descendAll fs dir b := by
  induction a generalizing cur with
  | nil => rfl
  | cons c a ih =>
    simp only [List.cons_append, descendAll]
    split
    · exact ih _
    · rfl

/-- POSIX pathname resolution of the string a system call receives. -/
def resolve (fs : Fs) (path : List Char) : Except Errno Target :=
  if path = [] then .error ENOENT
  else if PATH_MAX ≤ byteLength path then .error ENAMETOOLONG
  else match descendAll fs [] (components path).dropLast with
    | .ok dir => finish dir ((components path).getLastD [])
    | .error e => .error e

/-- The walk reads only directories: a file system that keeps every directory of `fs` walks
    every successful walk of `fs` the same way. -/
theorem descendAll_of_dirs {fs fs' : Fs} (hdirs : ∀ q, fs q = some .dir → fs' q = some .dir)
    (cur dir : Path) (cs : List (List Char)) (h : descendAll fs cur cs = .ok dir) :
    descendAll fs' cur cs = .ok dir := by
  induction cs generalizing cur with
  | nil => exact h
  | cons c cs ih =>
    simp only [descendAll] at h ⊢
    split at h
    · next next hn =>
      have hn' : descend fs' cur c = .ok next := by
        simp only [descend] at hn ⊢
        split_ifs at hn ⊢ <;> try exact hn
        split at hn
        · next hd => rw [hdirs _ hd]; exact hn
        all_goals cases hn
      rw [hn']
      exact ih next h
    · cases h

/-- A resolution that succeeded is kept by every file system that keeps the directories. -/
theorem resolve_of_dirs {fs fs' : Fs} (hdirs : ∀ q, fs q = some .dir → fs' q = some .dir)
    {path : List Char} {t : Target} (h : resolve fs path = .ok t) : resolve fs' path = .ok t := by
  unfold resolve at h ⊢
  split_ifs at h ⊢
  split at h
  · next dir hd => rw [descendAll_of_dirs hdirs [] dir _ hd]; exact h
  · cases h

/-! ## Keys that are one plain name -/

/-- A key the file store maps to a file of its own in the base directory: one non-empty path
    component other than `.` and `..`, with no NUL, short enough for `NAME_MAX` and, with the
    base path, for `PATH_MAX`. -/
structure PlainKey (basePath key : String) : Prop where
  ne_empty : key ≠ ""
  ne_dot : key ≠ "."
  ne_dotdot : key ≠ ".."
  no_slash : '/' ∉ key.toList
  no_nul : nul ∉ key.toList
  name_max : key.utf8ByteSize ≤ NAME_MAX
  path_max : (realPath basePath key).utf8ByteSize < PATH_MAX

instance (basePath key : String) : Decidable (PlainKey basePath key) :=
  decidable_of_iff (key ≠ "" ∧ key ≠ "." ∧ key ≠ ".." ∧ '/' ∉ key.toList ∧ nul ∉ key.toList ∧
      key.utf8ByteSize ≤ NAME_MAX ∧ (realPath basePath key).utf8ByteSize < PATH_MAX)
    ⟨fun ⟨a, b, c, d, e, f, g⟩ => ⟨a, b, c, d, e, f, g⟩,
      fun ⟨a, b, c, d, e, f, g⟩ => ⟨a, b, c, d, e, f, g⟩⟩

theorem finish_plain {basePath key : String} (hk : PlainKey basePath key) (cur : Path) :
    finish cur key.toList = .ok ⟨cur ++ [key], false⟩ := by
  have hne : key.toList ≠ [] := fun h => hk.ne_empty (String.ext h)
  have hdot : key.toList ≠ ['.'] := fun h => hk.ne_dot (String.ext h)
  have hdd : key.toList ≠ ['.', '.'] := fun h => hk.ne_dotdot (String.ext h)
  have hlen : ¬ NAME_MAX < byteLength key.toList := Nat.not_lt.2 hk.name_max
  simp only [finish, hne, hdot, hdd, hlen, or_self, if_false]
  rfl

/-- A plain key resolves to the file of its name in the directory `dir` that the base path
    walks to. -/
theorem resolve_plain {fs : Fs} {basePath key : String} {dir : Path}
    (hb : nul ∉ basePath.toList) (hbase : descendAll fs [] (components basePath.toList) = .ok dir)
    (hk : PlainKey basePath key) :
    resolve fs (cStr (realPath basePath key)) = .ok ⟨dir ++ [key], false⟩ := by
  rw [cStr_realPath hb hk.no_nul]
  have hcomp : components (realPath basePath key).toList
      = components basePath.toList ++ [key.toList] := by
    rw [toList_realPath, components_append_slash, components_of_no_slash hk.no_slash]
  have hne : (realPath basePath key).toList ≠ [] := by rw [toList_realPath]; simp
  have hlen : ¬ PATH_MAX ≤ byteLength (realPath basePath key).toList := Nat.not_le.2 hk.path_max
  simp only [resolve, hne, hlen, if_false, hcomp, List.dropLast_concat, List.getLastD_concat]
  rw [hbase]
  exact finish_plain hk dir

/-! ## The system calls on a target -/

/-- `stat(path)`: the target exists, and is a directory if the path demands one. -/
def stat (fs : Fs) (t : Target) : Except Errno Unit :=
  match fs t.path with
  | none => .error ENOENT
  | some .dir => .ok ()
  | some (.file _) => if t.mustBeDir then .error ENOTDIR else .ok ()

/-- Opening for reading (`std::ifstream` with `std::ios::ate`): the bytes of a regular file. The
    `open(2)` of a directory succeeds, and the stream then seeks to its end. This model takes the
    directory on `tmpfs`, where that seek fails with `EINVAL`, so the stream is not open and `get`
    throws that `errno`. (On `ext4` the seek reports `LLONG_MAX` instead, and `get` throws
    `std::bad_alloc` from the vector of that size: an exception the caller catches all the same.) -/
def openRead (fs : Fs) (t : Target) : Except Errno Bytes :=
  match fs t.path with
  | none => .error ENOENT
  | some .dir => .error EINVAL
  | some (.file data) => if t.mustBeDir then .error ENOTDIR else .ok data

theorem openRead_eq_ok {fs : Fs} {t : Target} {v : Bytes} (h : openRead fs t = .ok v) :
    fs t.path = some (.file v) ∧ t.mustBeDir = false := by
  unfold openRead at h
  split at h
  · cases h
  · cases h
  · next data hf =>
    by_cases hd : t.mustBeDir = true
    · rw [if_pos hd] at h; cases h
    · rw [if_neg hd] at h
      cases h
      exact ⟨hf, by simpa using hd⟩

/-- Opening for writing (`std::ofstream`, `O_WRONLY | O_CREAT | O_TRUNC`): a regular file, or a
    new one in the directory the walk stopped in. -/
def openWrite (fs : Fs) (t : Target) : Except Errno Unit :=
  match fs t.path with
  | some .dir => .error EISDIR
  | some (.file _) => if t.mustBeDir then .error ENOTDIR else .ok ()
  | none => if t.mustBeDir then .error EISDIR else .ok ()

/-- A readable file is writable. -/
theorem openWrite_of_openRead {fs : Fs} {t : Target} {v : Bytes} (h : openRead fs t = .ok v) :
    openWrite fs t = .ok () := by
  obtain ⟨hf, hd⟩ := openRead_eq_ok h
  simp [openWrite, hf, hd]

/-- `mkdir(path, 0777)`: a new directory where the path resolves to nothing, and `EEXIST` where
    it resolves to anything, a regular file included. -/
def mkdir (fs : Fs) (path : List Char) : Except Errno Fs :=
  match resolve fs path with
  | .error e => .error e
  | .ok t => match fs t.path with
    | some _ => .error EEXIST
    | none => .ok fun q => if q = t.path then some .dir else fs q

/-- `fs` with the regular file `data` at `p`. -/
def Fs.write (fs : Fs) (p : Path) (data : Bytes) : Fs :=
  fun q => if q = p then some (.file data) else fs q

@[simp] theorem Fs.write_same (fs : Fs) (p : Path) (data : Bytes) :
    fs.write p data p = some (.file data) := by
  simp [Fs.write]

theorem Fs.write_other (fs : Fs) {p q : Path} (data : Bytes) (h : q ≠ p) :
    fs.write p data q = fs q := by
  simp [Fs.write, h]

/-- A write where `openWrite` succeeded keeps every directory. -/
theorem Fs.write_keeps_dirs {fs : Fs} {t : Target} (data : Bytes) (h : openWrite fs t = .ok ())
    (q : Path) (hq : fs q = some .dir) : fs.write t.path data q = some .dir := by
  by_cases e : q = t.path
  · subst e
    simp only [openWrite, hq] at h
    cases h
  · rw [Fs.write_other _ _ e, hq]

end Gloo.Rendezvous
