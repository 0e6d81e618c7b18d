import Mathlib.Data.List.Infix
import Mathlib.Data.List.Perm.Subperm
import Mathlib.Data.String.Basic
import Athena.Library.Traverse

/-!
# A file system with symbolic links, and the resolution of paths

The tree is a finite table from canonical paths to what is there; that every entry lies in a
directory and has a proper name is part of the type. `resolve` walks a path component by component:
it applies `..` to what is resolved already, and at a link it walks the link's target first. A
component that is not there, or lies below a file, is kept as it is. A link whose resolution is
still under way is a loop.

At a loop the walk fails. CPython's non-strict resolution goes on from there by the text alone and
fails only if its result is a loop still, so that the walk is its own where there is no loop on the
way; and each link inside another takes a frame of the interpreter's stack, which is taken to be
deep enough.
-/

namespace Athena

open Library

/-- The names from the root of the tree down. -/
abbrev Path := List String

/-- What a directory entry can be called: at most 255 bytes, no separator, no null character. -/
def ValidName (name : String) : Prop :=
  name ≠ "" ∧ name ≠ "." ∧ name ≠ ".." ∧ '/' ∉ name.toList ∧ '\x00' ∉ name.toList ∧
    name.utf8ByteSize ≤ 255

instance (name : String) : Decidable (ValidName name) := inferInstanceAs (Decidable (_ ∧ _))

inductive Inode
  | directory
  | file (contents : List UInt8)
  | symlink (target : String)
  deriving DecidableEq

/-- The length of a path's text in bytes. -/
def textSize : Path → Nat
  | [] => 1
  | path => path.foldl (fun size name => size + 1 + name.utf8ByteSize) 0

/-- `pathMax` is how long a path the system takes (`PATH_MAX` without the final null): the one of
every entry is. -/
structure FileSystem where
  inodes : List (Path × Inode)
  pathMax : Nat
  root_directory : inodes.lookup [] = some .directory
  parent_directory : ∀ path name, (inodes.lookup (path ++ [name])).isSome →
    inodes.lookup path = some .directory
  valid_name : ∀ path name, (inodes.lookup (path ++ [name])).isSome → ValidName name
  short_path : ∀ path, (inodes.lookup path).isSome → textSize path ≤ pathMax

/-- Every entry but the root has a proper name and lies in a directory, and its path can be given to
Linux. -/
def wellFormed (inodes : List (Path × Inode)) : Bool :=
  inodes.lookup [] = some .directory && inodes.all fun (path, _) =>
    textSize path ≤ 4095 &&
      path.getLast?.all fun name => inodes.lookup path.dropLast = some .directory && ValidName name

/-- A file system from a table that is checked entry by entry. -/
def FileSystem.ofInodes (inodes : List (Path × Inode)) (h : wellFormed inodes = true) :
    FileSystem := by
  have hchecked : ∀ path, (inodes.lookup path).isSome → textSize path ≤ 4095 ∧
      (path.getLast?.all fun name =>
        inodes.lookup path.dropLast = some .directory && ValidName name) = true := by
    intro path hsome
    obtain ⟨found, hfound⟩ := Option.isSome_iff_exists.mp hsome
    obtain ⟨before, after, hinodes, -⟩ := List.lookup_eq_some_iff.mp hfound
    have hmem : (path, found) ∈ inodes := by simp [hinodes]
    obtain ⟨hshort, hname⟩ :=
      Bool.and_eq_true_iff.mp (List.all_eq_true.mp (Bool.and_eq_true_iff.mp h).2 _ hmem)
    exact ⟨of_decide_eq_true hshort, hname⟩
  have hentry : ∀ path name, (inodes.lookup (path ++ [name])).isSome →
      inodes.lookup path = some .directory ∧ ValidName name := by
    intro path name hsome
    have hname := (hchecked (path ++ [name]) hsome).2
    simpa using hname
  exact {
    inodes := inodes
    pathMax := 4095
    short_path := fun path hsome => (hchecked path hsome).1
    root_directory := by simpa using (Bool.and_eq_true_iff.mp h).1
    parent_directory := fun path name hsome => (hentry path name hsome).1
    valid_name := fun path name hsome => (hentry path name hsome).2 }

/-- The components of a path's text. -/
def components (text : String) : List String :=
  ((text.toList.splitOn '/').map String.ofList).filter fun name => name ≠ "" ∧ name ≠ "."

def isAbsolute (text : String) : Bool := text.toList.head? = some '/'

inductive WalkError
  | symlinkLoop (link : Path)
  | embeddedNull
  | outOfFuel
  deriving DecidableEq

namespace FileSystem

def inode (fs : FileSystem) (path : Path) : Option Inode := fs.inodes.lookup path

/-- Walk `names` from the resolved directory `path`. The links in `seen` are being resolved; each
level of `fuel` lets one more be. -/
def walk (fs : FileSystem) : Nat → List Path → Path → List String → Except WalkError Path
  | 0, _, _, _ => .error .outOfFuel
  | fuel + 1, seen, path, names =>
      names.foldlM (fun path name =>
        if name = ".." then .ok path.dropLast
        else if '\x00' ∈ name.toList then .error .embeddedNull
        else
          match fs.inode (path ++ [name]) with
          | some (.symlink target) =>
              if path ++ [name] ∈ seen then .error (.symlinkLoop (path ++ [name]))
              else
                fs.walk fuel ((path ++ [name]) :: seen) (if isAbsolute target then [] else path)
                  (components target)
          | _ => .ok (path ++ [name])) path

/-- `resolve()` of the path that leads from the canonical `path` along `names`. -/
def resolve (fs : FileSystem) (path : Path) (names : List String) : Except WalkError Path :=
  fs.walk (fs.inodes.length + 1) [] path names

/-- The walk of the operating system, which follows at most `budget` links. It finds nothing where a
component is missing, lies below a file or follows too many links, and fails where a name is too
long for the directory it is looked up in. -/
def namei (fs : FileSystem) (budget : Nat) (path : Path) (names : List String) :
    Except Unit (Option Path) :=
  match names with
  | [] => .ok (some path)
  | name :: rest =>
      if fs.inode path ≠ some .directory then .ok none
      else if name = ".." then fs.namei budget path.dropLast rest
      else if 255 < name.utf8ByteSize then .error ()
      else
        match fs.inode (path ++ [name]) with
        | none => .ok none
        | some (.symlink target) =>
            match budget with
            | 0 => .ok none
            | budget + 1 =>
                fs.namei budget (if isAbsolute target then [] else path) (components target ++ rest)
        | some _ => fs.namei budget (path ++ [name]) rest
termination_by (budget, names.length)

/-- `os.stat`: the text of the path is taken over as a whole before the walk. -/
def stat (fs : FileSystem) (path : Path) : Except Unit (Option Inode) :=
  if fs.pathMax < textSize path then .error ()
  else (fs.namei 40 [] path).map fun found => found.bind fs.inode

/-! ### Canonical paths -/

/-- A name that means an entry of its directory. -/
def PlainName (name : String) : Prop :=
  name ≠ "" ∧ name ≠ "." ∧ name ≠ ".." ∧ '/' ∉ name.toList ∧ '\x00' ∉ name.toList

/-- No component has a meaning of its own, and none is a link. -/
structure Canonical (fs : FileSystem) (path : Path) : Prop where
  plain : ∀ name ∈ path, PlainName name
  linkless : ∀ above, above <+: path → ∀ target, fs.inode above ≠ some (.symlink target)

variable {fs : FileSystem} {path : Path}

theorem canonical_root (fs : FileSystem) : fs.Canonical [] := by
  refine ⟨fun _ h => absurd h List.not_mem_nil, fun above habove target => ?_⟩
  rw [List.prefix_nil.mp habove, inode, fs.root_directory]
  simp

theorem Canonical.above (h : fs.Canonical path) {above : Path} (habove : above <+: path) :
    fs.Canonical above :=
  ⟨fun name hname => h.plain name (habove.subset hname), fun p hp => h.linkless p (hp.trans habove)⟩

theorem Canonical.concat (h : fs.Canonical path) {name : String} (hname : PlainName name)
    (hlinkless : ∀ target, fs.inode (path ++ [name]) ≠ some (.symlink target)) :
    fs.Canonical (path ++ [name]) := by
  constructor
  · intro name' hname'
    rcases List.mem_append.mp hname' with hold | hlast
    · exact h.plain name' hold
    · rwa [List.mem_singleton.mp hlast]
  · intro above habove target
    rcases List.prefix_concat_iff.mp habove with rfl | hold
    · exact hlinkless target
    · exact h.linkless above hold target

/-! ### Entries and the directories above them -/

theorem isSome_inode_of_append {names : List String} (h : (fs.inode (path ++ names)).isSome) :
    (fs.inode path).isSome := by
  induction names using List.reverseRecOn with
  | nil => simpa using h
  | append_singleton names name ih =>
      rw [← List.append_assoc] at h
      apply ih
      rw [inode, fs.parent_directory _ name h, Option.isSome_some]

theorem inode_eq_directory {name : String} {names : List String}
    (h : (fs.inode (path ++ name :: names)).isSome) :
    fs.inode path = some .directory := by
  rw [List.append_cons] at h
  exact fs.parent_directory path name (isSome_inode_of_append h)

theorem canonical_of_isSome (h : (fs.inode path).isSome)
    (hfile : ∀ target, fs.inode path ≠ some (.symlink target)) :
    fs.Canonical path := by
  induction path using List.reverseRecOn with
  | nil => exact canonical_root fs
  | append_singleton path name ih =>
      have hdirectory := fs.parent_directory path name h
      have hname := fs.valid_name path name h
      have hpath : fs.Canonical path := by
        apply ih
        · rw [inode, hdirectory, Option.isSome_some]
        · intro target
          rw [inode, hdirectory]
          simp
      exact hpath.concat ⟨hname.1, hname.2.1, hname.2.2.1, hname.2.2.2.1, hname.2.2.2.2.1⟩ hfile

/-- Along a canonical path the system follows no link. -/
theorem namei_canonical {names : List String} {budget : Nat} {found : Path}
    (h : fs.Canonical (path ++ names))
    (hfound : fs.namei budget path names = .ok (some found)) : found = path ++ names := by
  induction names generalizing path with
  | nil =>
      rw [namei] at hfound
      rw [List.append_nil]
      simpa using hfound.symm
  | cons name names ih =>
      rw [List.append_cons] at h ⊢
      have hup := (h.plain name (by simp)).2.2.1
      have hlinkless := h.linkless (path ++ [name]) (List.prefix_append _ _)
      rw [namei, if_neg hup] at hfound
      split at hfound
      · simp at hfound
      · split at hfound
        · simp at hfound
        · split at hfound
          · simp at hfound
          · rename_i target hlink
            exact absurd hlink (hlinkless target)
          · exact ih h hfound

/-- An entry with a canonical path is reached. -/
theorem namei_of_isSome {names : List String} (budget : Nat) (h : fs.Canonical (path ++ names))
    (hentry : (fs.inode (path ++ names)).isSome) :
    fs.namei budget path names = .ok (some (path ++ names)) := by
  induction names generalizing path with
  | nil => rw [namei, List.append_nil]
  | cons name names ih =>
      have hdirectory := inode_eq_directory hentry
      rw [List.append_cons] at h hentry ⊢
      have hup := (h.plain name (by simp)).2.2.1
      have hlinkless := h.linkless (path ++ [name]) (List.prefix_append _ _)
      have hhere := isSome_inode_of_append hentry
      have hsize := (fs.valid_name path name hhere).2.2.2.2.2
      rw [namei, if_neg (not_not_intro hdirectory), if_neg hup, if_neg (Nat.not_lt.mpr hsize)]
      split
      · rename_i hnone
        rw [hnone] at hhere
        simp at hhere
      · rename_i target hlink
        exact absurd hlink (hlinkless target)
      · exact ih h hentry

theorem stat_eq_some {found : Inode} (h : fs.Canonical path)
    (hstat : fs.stat path = .ok (some found)) :
    fs.inode path = some found := by
  rw [stat] at hstat
  split at hstat
  · cases hstat
  cases hwalk : fs.namei 40 [] path with
  | error e => simp [hwalk, Except.map] at hstat
  | ok reached =>
      cases reached with
      | none => simp [hwalk, Except.map] at hstat
      | some reached =>
          have hreached : reached = [] ++ path := namei_canonical h hwalk
          rw [hwalk, hreached, List.nil_append] at hstat
          exact Except.ok.inj hstat

theorem stat_eq_inode (h : fs.Canonical path) (hentry : (fs.inode path).isSome) :
    fs.stat path = .ok (fs.inode path) := by
  have hwalk : fs.namei 40 [] path = .ok (some path) := namei_of_isSome 40 h hentry
  rw [stat, if_neg (Nat.not_lt.mpr (fs.short_path path hentry)), hwalk]
  rfl

/-! ### The walk -/

theorem not_mem_of_mem_splitOn {sep : Char} {text part : List Char} (h : part ∈ text.splitOn sep) :
    sep ∉ part := by
  induction text generalizing part with
  | nil =>
      rw [List.splitOn_nil, List.mem_singleton] at h
      rw [h]
      exact List.not_mem_nil
  | cons c text ih =>
      rw [List.splitOn_cons_eq_if_modifyHead] at h
      split at h
      · rcases List.mem_cons.mp h with rfl | hlater
        · exact List.not_mem_nil
        · exact ih hlater
      · rename_i hother
        cases hparts : text.splitOn sep with
        | nil => exact absurd hparts (List.splitOn_ne_nil sep text)
        | cons first parts =>
            rw [hparts, List.modifyHead_cons] at h
            rcases List.mem_cons.mp h with rfl | hlater
            · have hfirst : sep ∉ first := ih (hparts ▸ List.mem_cons_self)
              rw [List.mem_cons, not_or]
              exact ⟨fun hsame => hother (by simp [hsame]), hfirst⟩
            · exact ih (hparts ▸ List.mem_cons_of_mem _ hlater)

theorem components_spec {text name : String} (h : name ∈ components text) :
    name ≠ "" ∧ name ≠ "." ∧ '/' ∉ name.toList := by
  obtain ⟨hpart, hname⟩ := List.mem_filter.mp h
  obtain ⟨part, hsplit, rfl⟩ := List.mem_map.mp hpart
  obtain ⟨hempty, hdot⟩ := of_decide_eq_true hname
  refine ⟨hempty, hdot, ?_⟩
  rw [String.toList_ofList]
  exact not_mem_of_mem_splitOn hsplit

/-- Whatever the walk resolves to is canonical. -/
theorem walk_canonical {names : List String}
    (hnames : ∀ name ∈ names, name ≠ "" ∧ name ≠ "." ∧ '/' ∉ name.toList)
    (fuel : Nat) (seen : List Path) (h : fs.Canonical path) :
    Outcome fs.Canonical (fun _ => True) (fs.walk fuel seen path names) := by
  induction fuel generalizing seen path names with
  | zero => exact trivial
  | succ fuel ih =>
      rw [walk]
      refine foldlM_outcome (fun path name hmem hpath => ?_) h
      obtain ⟨hempty, hdot, hslash⟩ := hnames name hmem
      by_cases hup : name = ".."
      · rw [if_pos hup]
        exact hpath.above (List.dropLast_prefix path)
      rw [if_neg hup]
      by_cases hnull : '\x00' ∈ name.toList
      · rw [if_pos hnull]
        exact trivial
      rw [if_neg hnull]
      split
      · -- A link: its target is walked from here or from the root.
        rename_i target _
        split
        · exact trivial
        · apply ih
          · exact fun name => components_spec
          · split
            · exact canonical_root fs
            · exact hpath
      · rename_i hlinkless
        exact hpath.concat ⟨hempty, hdot, hup, hslash, hnull⟩ hlinkless

/-- The links being resolved are distinct entries of the tree, so there is fuel for every one of
them. -/
theorem walk_fuel (fuel : Nat) {seen : List Path} (hseen : seen.Nodup)
    (hlinks : seen ⊆ fs.inodes.map Prod.fst)
    (hfuel : fs.inodes.length < fuel + seen.length) (path : Path) (names : List String) :
    Outcome (fun _ => True) (· ≠ .outOfFuel) (fs.walk fuel seen path names) := by
  induction fuel generalizing seen path names with
  | zero =>
      have hle := (hseen.subperm hlinks).length_le
      rw [List.length_map] at hle
      omega
  | succ fuel ih =>
      rw [walk]
      refine foldlM_outcome (fun path name _ _ => ?_) trivial
      split
      · exact trivial
      · split
        · exact fun h => nomatch h
        · split
          · rename_i target hlink
            split
            · exact fun h => nomatch h
            · rename_i hnew
              have hentry : path ++ [name] ∈ fs.inodes.map Prod.fst := by
                obtain ⟨before, after, hinodes, -⟩ := List.lookup_eq_some_iff.mp hlink
                rw [hinodes]
                simp
              apply ih (List.nodup_cons.mpr ⟨hnew, hseen⟩) (List.cons_subset.mpr ⟨hentry, hlinks⟩)
              rw [List.length_cons]
              omega
          · exact trivial

/-- The walk along a canonical path finds no link. -/
theorem walk_of_canonical {names : List String} (fuel : Nat) (seen : List Path)
    (h : fs.Canonical (path ++ names)) :
    fs.walk (fuel + 1) seen path names = .ok (path ++ names) := by
  rw [walk]
  induction names generalizing path with
  | nil =>
      rw [List.append_nil]
      rfl
  | cons name names ih =>
      rw [List.append_cons] at h ⊢
      obtain ⟨-, -, hup, -, hnull⟩ := h.plain name (by simp)
      have hlinkless := h.linkless (path ++ [name]) (List.prefix_append _ _)
      rw [List.foldlM_cons, if_neg hup, if_neg hnull]
      split
      · rename_i target hlink
        exact absurd hlink (hlinkless target)
      · exact ih h

theorem resolve_canonical {names : List String}
    (hnames : ∀ name ∈ names, name ≠ "" ∧ name ≠ "." ∧ '/' ∉ name.toList)
    (h : fs.Canonical path) {resolved : Path} (hresolve : fs.resolve path names = .ok resolved) :
    fs.Canonical resolved := by
  have houtcome := walk_canonical hnames (fs.inodes.length + 1) [] h
  rw [resolve] at hresolve
  rwa [hresolve] at houtcome

/-- The fuel of `resolve` suffices for every path. -/
theorem resolve_ne_outOfFuel (fs : FileSystem) (path : Path) (names : List String) :
    fs.resolve path names ≠ .error .outOfFuel := by
  intro h
  have houtcome := walk_fuel (fs.inodes.length + 1) List.nodup_nil (List.nil_subset _)
    (Nat.lt_succ_self fs.inodes.length) path names
  rw [resolve] at h
  rw [h] at houtcome
  exact houtcome rfl

end FileSystem

end Athena
