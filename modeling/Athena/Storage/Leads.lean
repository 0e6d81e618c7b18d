import Mathlib.Data.Nat.Find
import Athena.Storage.FileSystem

/-!
# Where a path leads

`Leads` says what a path denotes without saying how it is found: each component in turn, a link by
where its target leads. It has a derivation only if there is no null character and no loop on the
way, and then it is the path that the walk resolves: a link that is met again while its own target
is being followed would have to be followed by a derivation shorter than its own shortest one.
-/

namespace Athena.FileSystem

open Library

/-- From the canonical `path`, `names` lead to `final`, through links that are nested at most
`depth` deep. -/
inductive Leads (fs : FileSystem) : Nat → Path → List String → Path → Prop
  | done (depth : Nat) (path : Path) : Leads fs depth path [] path
  | up {depth : Nat} {path final : Path} {rest : List String} :
      Leads fs depth path.dropLast rest final → Leads fs depth path (".." :: rest) final
  | entry {depth : Nat} {path final : Path} {name : String} {rest : List String} (hup : name ≠ "..")
      (hnull : '\x00' ∉ name.toList)
      (hlink : ∀ target, fs.inode (path ++ [name]) ≠ some (.symlink target)) :
      Leads fs depth (path ++ [name]) rest final → Leads fs depth path (name :: rest) final
  | link {depth : Nat} {path reached final : Path} {name target : String} {rest : List String}
      (hup : name ≠ "..")
      (hnull : '\x00' ∉ name.toList) (hlink : fs.inode (path ++ [name]) = some (.symlink target)) :
      Leads fs depth (if isAbsolute target then [] else path) (components target) reached →
      Leads fs (depth + 1) reached rest final → Leads fs (depth + 1) path (name :: rest) final

variable {fs : FileSystem} {path final : Path} {name target : String} {names rest : List String}
  {seen : List Path} {fuel depth : Nat}

/-! ### One component of the walk -/

theorem walk_nil (fuel : Nat) (seen : List Path) (path : Path) :
    fs.walk (fuel + 1) seen path [] = .ok path := by
  rw [walk]
  rfl

theorem walk_up (fuel : Nat) (seen : List Path) (path : Path) (rest : List String) :
    fs.walk (fuel + 1) seen path (".." :: rest) = fs.walk (fuel + 1) seen path.dropLast rest := by
  rw [walk, walk, List.foldlM_cons, if_pos rfl]
  rfl

theorem walk_null (fuel : Nat) (seen : List Path) (path : Path) (hup : name ≠ "..")
    (hnull : '\x00' ∈ name.toList)
    (rest : List String) : fs.walk (fuel + 1) seen path (name :: rest) = .error .embeddedNull := by
  rw [walk, List.foldlM_cons, if_neg hup, if_pos hnull]
  rfl

theorem walk_entry (fuel : Nat) (seen : List Path) (hup : name ≠ "..")
    (hnull : '\x00' ∉ name.toList)
    (hlink : ∀ target, fs.inode (path ++ [name]) ≠ some (.symlink target)) (rest : List String) :
    fs.walk (fuel + 1) seen path (name :: rest) =
      fs.walk (fuel + 1) seen (path ++ [name]) rest := by
  rw [walk, walk, List.foldlM_cons, if_neg hup, if_neg hnull]
  split
  · rename_i target htarget
    exact absurd htarget (hlink target)
  · rfl

theorem walk_link_seen (fuel : Nat) (hup : name ≠ "..") (hnull : '\x00' ∉ name.toList)
    (hlink : fs.inode (path ++ [name]) = some (.symlink target)) (hseen : path ++ [name] ∈ seen)
    (rest : List String) :
    fs.walk (fuel + 1) seen path (name :: rest) = .error (.symlinkLoop (path ++ [name])) := by
  rw [walk, List.foldlM_cons, if_neg hup, if_neg hnull]
  simp only [hlink, if_pos hseen]
  rfl

theorem walk_link (fuel : Nat) (hup : name ≠ "..") (hnull : '\x00' ∉ name.toList)
    (hlink : fs.inode (path ++ [name]) = some (.symlink target)) (hseen : path ++ [name] ∉ seen)
    (rest : List String) :
    fs.walk (fuel + 1) seen path (name :: rest) =
      (fs.walk fuel ((path ++ [name]) :: seen) (if isAbsolute target then [] else path)
        (components target)).bind fun reached => fs.walk (fuel + 1) seen reached rest := by
  rw [walk, List.foldlM_cons, if_neg hup, if_neg hnull]
  simp only [hlink, if_neg hseen]
  rfl

/-! ### The walk finds where a path leads -/

theorem component_cases (fs : FileSystem) (path : Path) (name : String) :
    name = ".." ∨ (name ≠ ".." ∧ '\x00' ∈ name.toList) ∨
      (name ≠ ".." ∧ '\x00' ∉ name.toList ∧
        ∀ target, fs.inode (path ++ [name]) ≠ some (.symlink target)) ∨
      (name ≠ ".." ∧ '\x00' ∉ name.toList ∧
        ∃ target, fs.inode (path ++ [name]) = some (.symlink target)) := by
  by_cases hup : name = ".."
  · exact .inl hup
  by_cases hnull : '\x00' ∈ name.toList
  · exact .inr (.inl ⟨hup, hnull⟩)
  by_cases hlink : ∃ target, fs.inode (path ++ [name]) = some (.symlink target)
  · exact .inr (.inr (.inr ⟨hup, hnull, hlink⟩))
  · exact .inr (.inr (.inl ⟨hup, hnull, not_exists.mp hlink⟩))

theorem leads_of_walk (h : fs.walk (fuel + 1) seen path names = .ok final) :
    fs.Leads fuel path names final := by
  induction fuel using Nat.strongRecOn generalizing seen path names final with
  | ind fuel ihFuel =>
      induction names generalizing path with
      | nil =>
          rw [walk_nil] at h
          exact Except.ok.inj h ▸ .done fuel path
      | cons name rest ih =>
          rcases component_cases fs path name with
            rfl | ⟨hup, hnull⟩ | ⟨hup, hnull, hlink⟩ | ⟨hup, hnull, target, hlink⟩
          · rw [walk_up] at h
            exact .up (ih h)
          · rw [walk_null fuel seen path hup hnull rest] at h
            simp at h
          · rw [walk_entry fuel seen hup hnull hlink rest] at h
            exact .entry hup hnull hlink (ih h)
          · by_cases hseen : path ++ [name] ∈ seen
            · rw [walk_link_seen fuel hup hnull hlink hseen rest] at h
              simp at h
            · rw [walk_link fuel hup hnull hlink hseen rest] at h
              cases fuel with
              | zero => simp [walk, Except.bind] at h
              | succ fuel =>
                  cases hreached : fs.walk (fuel + 1) ((path ++ [name]) :: seen)
                    (if isAbsolute target then [] else path)
                      (components target) with
                  | error e => simp [hreached, Except.bind] at h
                  | ok reached =>
                      rw [hreached] at h
                      exact .link hup hnull hlink (ihFuel fuel (Nat.lt_succ_self fuel) hreached)
                        (ih h)

/-- More fuel than enough changes nothing. -/
theorem walk_succ (h : fs.walk fuel seen path names ≠ .error .outOfFuel) :
    fs.walk (fuel + 1) seen path names = fs.walk fuel seen path names := by
  induction fuel generalizing seen path names with
  | zero => exact absurd rfl h
  | succ fuel ihFuel =>
      induction names generalizing path with
      | nil => rw [walk_nil, walk_nil]
      | cons name rest ih =>
          rcases component_cases fs path name with
            rfl | ⟨hup, hnull⟩ | ⟨hup, hnull, hlink⟩ | ⟨hup, hnull, target, hlink⟩
          · rw [walk_up] at h ⊢
            rw [walk_up]
            exact ih h
          · rw [walk_null _ seen path hup hnull rest, walk_null _ seen path hup hnull rest]
          · rw [walk_entry _ seen hup hnull hlink rest] at h ⊢
            rw [walk_entry _ seen hup hnull hlink rest]
            exact ih h
          · by_cases hseen : path ++ [name] ∈ seen
            · rw [walk_link_seen _ hup hnull hlink hseen rest,
                walk_link_seen _ hup hnull hlink hseen rest]
            · rw [walk_link _ hup hnull hlink hseen rest] at h ⊢
              rw [walk_link _ hup hnull hlink hseen rest]
              cases hreached : fs.walk fuel ((path ++ [name]) :: seen)
                (if isAbsolute target then [] else path)
                  (components target) with
              | error e =>
                  have hfuel : fs.walk fuel ((path ++ [name]) :: seen)
                      (if isAbsolute target then [] else path)
                      (components target) ≠ .error .outOfFuel := by
                    intro hout
                    rw [hout] at h
                    exact h rfl
                  rw [ihFuel hfuel, hreached]
                  rfl
              | ok reached =>
                  rw [hreached] at h
                  rw [ihFuel (by simp [hreached]), hreached]
                  exact ih h

theorem walk_mono (h : fs.walk fuel seen path names ≠ .error .outOfFuel) (more : Nat) :
    fs.walk (fuel + more) seen path names = fs.walk fuel seen path names := by
  induction more with
  | zero => rfl
  | succ more ih =>
      rw [← Nat.add_assoc, walk_succ (ih ▸ h), ih]

theorem Leads.unique {depth' : Nat} {final' : Path} (h : fs.Leads depth path names final)
    (h' : fs.Leads depth' path names final') : final = final' := by
  induction h generalizing depth' final' with
  | done =>
      cases h' with
      | done => rfl
  | up _ ih =>
      cases h' with
      | up h' => exact ih h'
      | entry hup => exact absurd rfl hup
      | link hup => exact absurd rfl hup
  | entry hup _ hlink _ ih =>
      cases h' with
      | up => exact absurd rfl hup
      | entry _ _ _ h' => exact ih h'
      | link _ _ hlink' => exact absurd hlink' (hlink _)
  | link hup _ hlink _ _ ihTarget ihRest =>
      cases h' with
      | up => exact absurd rfl hup
      | entry _ _ hlink' => exact absurd hlink (hlink' _)
      | link _ _ hlink' htarget' hrest' =>
          obtain rfl : _ = _ := Inode.symlink.inj (Option.some.inj (hlink.symm.trans hlink'))
          obtain rfl := ihTarget htarget'
          exact ihRest hrest'

/-! ### No loop is seen where there is none -/

/-- None of the links in `seen` can be followed by a derivation less than `depth` deep. -/
def Unfollowed (fs : FileSystem) (seen : List Path) (depth : Nat) : Prop :=
  ∀ path name target, path ++ [name] ∈ seen → fs.inode (path ++ [name]) = some (.symlink target) →
    ∀ below < depth, ∀ reached,
      ¬fs.Leads below (if isAbsolute target then [] else path) (components target) reached

theorem unfollowed_nil (fs : FileSystem) (depth : Nat) : fs.Unfollowed [] depth :=
  fun _ _ _ h => absurd h List.not_mem_nil

/-- A link is followed at its own smallest depth, below which it cannot be met again. -/
theorem Unfollowed.cons (h : fs.Unfollowed seen depth) {least : Nat} (hle : least ≤ depth)
    (hlink : fs.inode (path ++ [name]) = some (.symlink target))
    (hleast : ∀ below < least, ∀ reached,
      ¬fs.Leads below (if isAbsolute target then [] else path) (components target) reached) :
    fs.Unfollowed ((path ++ [name]) :: seen) least := by
  intro path' name' target' hmem hlink' below hbelow
  rcases List.mem_cons.mp hmem with hsame | hold
  · obtain ⟨rfl, hname⟩ := List.append_inj' hsame rfl
    obtain rfl : name' = name := by simpa using hname
    obtain rfl := Inode.symlink.inj (Option.some.inj (hlink.symm.trans hlink'))
    exact hleast below hbelow
  · exact h path' name' target' hold hlink' below (Nat.lt_of_lt_of_le hbelow hle)

theorem walk_of_leads (h : fs.Leads depth path names final) (hseen : fs.Unfollowed seen depth)
    (hfuel : depth < fuel) :
    fs.walk fuel seen path names = .ok final := by
  induction depth using Nat.strongRecOn generalizing fuel seen path names final with
  | ind depth ihDepth =>
      obtain ⟨fuel, rfl⟩ : ∃ below, fuel = below + 1 := ⟨fuel - 1, by omega⟩
      induction names generalizing path with
      | nil =>
          cases h with
          | done => exact walk_nil fuel seen _
      | cons name rest ih =>
          cases h with
          | up h =>
              rw [walk_up]
              exact ih h
          | entry hup hnull hlink h =>
              rw [walk_entry fuel seen hup hnull hlink rest]
              exact ih h
          | @link depth _ reached _ _ target _ hup hnull hlink htarget hrest =>
              have hnew : path ++ [name] ∉ seen := fun hmem =>
                hseen path name target hmem hlink depth (Nat.lt_succ_self depth) reached htarget
              -- The smallest depth at which the target leads anywhere.
              classical
              have hexists : ∃ least, ∃ reached,
                  fs.Leads least (if isAbsolute target then [] else path) (components target)
                    reached :=
                ⟨depth, reached, htarget⟩
              obtain ⟨reached', hleast⟩ := Nat.find_spec hexists
              obtain rfl := htarget.unique hleast
              have hle : Nat.find hexists ≤ depth := Nat.find_min' hexists ⟨_, htarget⟩
              have hunfollowed :=
                hseen.cons (Nat.le_succ_of_le hle) hlink fun below hbelow reached hleads =>
                Nat.find_min hexists hbelow ⟨reached, hleads⟩
              have hwalk := ihDepth (Nat.find hexists) (Nat.lt_succ_of_le hle) hleast hunfollowed
                (Nat.lt_of_le_of_lt hle (Nat.lt_of_succ_lt_succ hfuel))
              rw [walk_link fuel hup hnull hlink hnew rest, hwalk]
              exact ih hrest

/-- A link is met again while it is being followed. -/
def MeetsLoop (fs : FileSystem) (path : Path) (names : List String) : Prop :=
  ∃ link, fs.resolve path names = .error (.symlinkLoop link)

theorem resolve_eq_ok_iff :
    fs.resolve path names = .ok final ↔ ∃ depth, fs.Leads depth path names final := by
  constructor
  · intro h
    exact ⟨_, leads_of_walk h⟩
  · rintro ⟨depth, h⟩
    have hlong : fs.walk (fs.inodes.length + 1 + (depth + 1)) [] path names = .ok final :=
      walk_of_leads h (unfollowed_nil fs depth) (by omega)
    rw [walk_mono (resolve_ne_outOfFuel fs path names)] at hlong
    exact hlong

/-! ### What there is at a canonical path -/

/-- A name is looked up, in a directory that is there, that no entry can have for its length. -/
def Overlong (fs : FileSystem) (path names : Path) : Prop :=
  ∃ above name rest, names = above ++ name :: rest ∧ fs.inode (path ++ above) = some .directory ∧
    255 < name.utf8ByteSize

theorem inode_eq_directory_of_append {above : Path}
    (h : fs.inode (path ++ above) = some .directory) :
    fs.inode path = some .directory := by
  cases above with
  | nil => rwa [List.append_nil] at h
  | cons name above => exact inode_eq_directory (by rw [h]; rfl)

theorem overlong_cons (hsize : name.utf8ByteSize ≤ 255) :
    fs.Overlong path (name :: rest) ↔ fs.Overlong (path ++ [name]) rest := by
  constructor
  · rintro ⟨above, long, later, hnames, hdirectory, hlong⟩
    cases above with
    | nil =>
        obtain ⟨rfl, -⟩ := List.cons.inj hnames
        omega
    | cons first above =>
        obtain ⟨rfl, rfl⟩ := List.cons.inj hnames
        exact ⟨above, long, later, rfl, by rwa [List.append_assoc], hlong⟩
  · rintro ⟨above, long, later, rfl, hdirectory, hlong⟩
    exact ⟨name :: above, long, later, rfl, by rwa [List.append_assoc] at hdirectory, hlong⟩

/-- Along a canonical path the system fails only at a name that is too long. -/
theorem namei_eq_error_iff {budget : Nat} (h : fs.Canonical (path ++ names)) :
    fs.namei budget path names = .error () ↔ fs.Overlong path names := by
  induction names generalizing path with
  | nil =>
      rw [namei]
      simp [Overlong]
  | cons name rest ih =>
      rw [List.append_cons] at h
      have hup := (h.plain name (by simp)).2.2.1
      have hlinkless := h.linkless (path ++ [name]) (List.prefix_append _ _)
      rw [namei, if_neg hup]
      by_cases hdirectory : fs.inode path = some .directory
      swap
      · rw [if_pos hdirectory]
        simp only [reduceCtorEq, false_iff]
        rintro ⟨above, -, -, -, habove, -⟩
        exact hdirectory (inode_eq_directory_of_append habove)
      rw [if_neg (not_not_intro hdirectory)]
      by_cases hlong : 255 < name.utf8ByteSize
      · rw [if_pos hlong]
        simp only [true_iff]
        exact ⟨[], name, rest, rfl, by rwa [List.append_nil], hlong⟩
      rw [if_neg hlong, overlong_cons (Nat.not_lt.mp hlong)]
      split
      · -- Nothing is there, so nothing is looked up below it.
        rename_i hnone
        simp only [reduceCtorEq, false_iff]
        rintro ⟨above, -, -, -, habove, -⟩
        rw [inode_eq_directory_of_append habove] at hnone
        simp at hnone
      · rename_i target hlink
        exact absurd hlink (hlinkless target)
      · exact ih h

/-- The system fails at a canonical path only for a length, its own or that of a name. -/
theorem stat_eq_error_iff (h : fs.Canonical path) :
    fs.stat path = .error () ↔ fs.pathMax < textSize path ∨ fs.Overlong [] path := by
  have hnamei : fs.namei 40 [] path = .error () ↔ fs.Overlong [] path := namei_eq_error_iff h
  rw [← hnamei, stat]
  by_cases hlong : fs.pathMax < textSize path
  · rw [if_pos hlong]
    exact iff_of_true rfl (.inl hlong)
  rw [if_neg hlong, or_iff_right hlong]
  cases fs.namei 40 [] path with
  | error e => simp [Except.map]
  | ok found => simp [Except.map]

end Athena.FileSystem
