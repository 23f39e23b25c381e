import FlowLang.FileTree
import FlowLang.Proofs.Text.Blank

/-!
# Paths and places

A path that a file can be opened at leads through directories (`Walk`) to one more name (`Leads`). Writing a file there
changes what is at that place and nothing else, so all paths lead where they led before.
-/

namespace FlowLang.FileTree

open Text

variable {t : FileTree} {path name : Text} {place p : Place} {bytes : Bytes}

/-! ## Entries -/

theorem find?_put (t : FileTree) (place p : Place) (entry : FileEntry) :
    ((t.put place entry).entries.find? fun e => e.1 == p)
      = if p = place then some (place, entry) else t.entries.find? fun e => e.1 == p := by
  unfold put
  split
  case isTrue hany =>
    have hkey : (fun e => e.1 == p) ∘ (fun e : Place × FileEntry => if e.1 == place then (place, entry) else e)
        = fun e => e.1 == p := by
      funext e
      by_cases he : e.1 = place <;> simp [he]
    simp only [List.find?_map, hkey]
    cases hfind : t.entries.find? fun e => e.1 == p with
    | none =>
        have hne : p ≠ place := by
          rintro rfl
          rw [List.find?_eq_none] at hfind
          obtain ⟨e, he, hep⟩ := List.any_eq_true.mp hany
          exact hfind e he hep
        rw [if_neg hne, Option.map_none]
    | some e =>
        have hep : e.1 = p := by simpa using List.find?_some hfind
        by_cases hp : p = place <;> simp [hep, hp]
  case isFalse hany =>
    rw [List.find?_append]
    by_cases hp : p = place
    · subst hp
      have hnone : (t.entries.find? fun e => e.1 == p) = none := by
        rw [List.find?_eq_none]
        intro e he hep
        exact hany (List.any_eq_true.mpr ⟨e, he, hep⟩)
      simp [hnone]
    · simp [hp, Ne.symm hp]

theorem get?_put_of_ne (h : p ≠ place) (t : FileTree) (entry : FileEntry) : (t.put place entry).get? p = t.get? p := by
  rw [get?, get?, find?_put, if_neg h]

/-- Where no directory is, an entry can be put. -/
theorem get?_put_self (h : t.get? place ≠ some .directory) (entry : FileEntry) :
    (t.put place entry).get? place = some entry := by
  have hbelow : ¬(place = .root ∨ place.isAbove) := fun habove => h (if_pos habove)
  rw [get?, if_neg hbelow, find?_put, if_pos rfl, Option.map_some]

/-! ## Ways through directories -/

/-- A name that a path can end with. -/
structure IsName (name : Text) : Prop where
  not_stay : ¬(name.isEmpty || name == ".".toList) = true
  not_up : ¬(name == "..".toList) = true
  short : ¬255 < (Utf8.encode name).length

/-- The parts of a path lead from one directory to another. -/
inductive Walk (t : FileTree) : Place → List Text → Place → Prop
  | here (dir : Place) : Walk t dir [] dir
  | stay {here dir : Place} {part : Text} {rest : List Text} (hpart : (part.isEmpty || part == ".".toList) = true)
      (h : Walk t here rest dir) : Walk t here (part :: rest) dir
  | up {here dir : Place} {rest : List Text} (h : Walk t here.up rest dir) : Walk t here ("..".toList :: rest) dir
  | down {here dir : Place} {part : Text} {rest : List Text} (hpart : IsName part)
      (hdirectory : t.get? (here ++ [part]) = some .directory) (h : Walk t (here ++ [part]) rest dir) :
      Walk t here (part :: rest) dir

variable {here dir : Place}

theorem follow_cons (hname : IsName name) (path : Text) (here : Place) (rest : List Text) :
    t.follow path here (name :: rest) =
      match t.get? (here ++ [name]) with
      | some .directory => t.follow path (here ++ [name]) rest
      | some (.file bytes) =>
        if rest.isEmpty then .ok (.entry (here ++ [name]) (.file bytes)) else .error (.notDirectory path)
      | none =>
        if rest.isEmpty then .ok (.free (here ++ [name]))
        else if rest.all List.isEmpty then .ok .freeDirectory
        else .error (.missing path) :=
  (if_neg hname.not_stay).trans ((if_neg hname.not_up).trans (if_neg hname.short))

theorem Walk.follow_append {dirs : List Text} (h : Walk t here dirs dir) (path : Text) (rest : List Text) :
    t.follow path here (dirs ++ rest) = t.follow path dir rest := by
  induction h with
  | here => rfl
  | stay hpart _ ih => rw [List.cons_append, follow, if_pos hpart, ih]
  | up _ ih => rw [List.cons_append, follow, if_neg (by decide), if_pos (by decide), ih]
  | down hpart hdirectory _ ih => rw [List.cons_append, follow_cons hpart, hdirectory]; exact ih

/-- A file in the place of no directory closes no way. -/
theorem Walk.put {dirs : List Text} (h : Walk t here dirs dir) (hplace : t.get? place ≠ some .directory)
    (entry : FileEntry) : Walk (t.put place entry) here dirs dir := by
  induction h with
  | here dir => exact .here dir
  | stay hpart _ ih => exact .stay hpart ih
  | up _ ih => exact .up ih
  | @down here dir part rest hpart hdirectory _ ih =>
      have hne : here ++ [part] ≠ place := by
        rintro rfl
        exact hplace hdirectory
      exact .down hpart (by rw [get?_put_of_ne hne, hdirectory]) ih

/-- The place that a target is at, where a file can be written. -/
def Target.filePlace? : Target → Option Place
  | .entry place (.file _) | .free place => some place
  | .entry _ .directory | .freeDirectory => none

theorem exists_walk_of_follow {parts : List Text} {target : Target} (h : t.follow path here parts = .ok target)
    (hplace : target.filePlace? = some place) :
    ∃ dirs dir name, parts = dirs ++ [name] ∧ Walk t here dirs dir ∧ IsName name ∧ place = dir ++ [name] ∧
      t.get? place ≠ some .directory := by
  induction parts generalizing here with
  | nil =>
      cases h
      cases hplace
  | cons part rest ih =>
      by_cases hstay : (part.isEmpty || part == ".".toList) = true
      · rw [follow, if_pos hstay] at h
        obtain ⟨dirs, dir, name, rfl, hwalk, hrest⟩ := ih h
        exact ⟨part :: dirs, dir, name, rfl, .stay hstay hwalk, hrest⟩
      by_cases hup : (part == "..".toList) = true
      · rw [follow, if_neg hstay, if_pos hup] at h
        obtain ⟨dirs, dir, name, rfl, hwalk, hrest⟩ := ih h
        obtain rfl := eq_of_beq hup
        exact ⟨_, dir, name, rfl, .up hwalk, hrest⟩
      by_cases hlong : 255 < (Utf8.encode part).length
      · rw [follow, if_neg hstay, if_neg hup, if_pos hlong] at h
        cases h
      have hname : IsName part := ⟨hstay, hup, hlong⟩
      rw [follow_cons hname] at h
      -- only a last part leads to a place for a file
      cases hnext : t.get? (here ++ [part]) with
      | some e =>
          rw [hnext] at h
          cases e with
          | directory =>
              obtain ⟨dirs, dir, name, rfl, hwalk, hrest⟩ := ih h
              exact ⟨part :: dirs, dir, name, rfl, .down hname hnext hwalk, hrest⟩
          | file bytes =>
              cases rest with
              | cons => cases h
              | nil =>
                  cases h
                  cases hplace
                  exact ⟨[], here, part, rfl, .here here, hname, rfl, by simp [hnext]⟩
      | none =>
          rw [hnext] at h
          cases rest with
          | nil =>
              cases h
              cases hplace
              exact ⟨[], here, part, rfl, .here here, hname, rfl, by simp [hnext]⟩
          | cons =>
              simp only [List.isEmpty_cons, Bool.false_eq_true, if_false] at h
              split at h <;> cases h
              cases hplace

/-! ## Paths -/

/-- Where a path starts. -/
def start (path : Text) : Place :=
  if path.head? = some '/' then .root else []

/-- The path leads through directories to a name in the last of them. -/
structure Leads (t : FileTree) (path : Text) (dir : Place) (name : Text) : Prop where
  no_null : path.contains '\x00' = false
  short : ¬4095 < (Utf8.encode path).length
  is_name : IsName name
  walk : ∃ dirs, splitOn '/' path = dirs ++ [name] ∧ Walk t (start path) dirs dir

theorem Leads.resolve_eq (h : Leads t path dir name) :
    t.resolve path = .ok (match t.get? (dir ++ [name]) with
      | some e => .entry (dir ++ [name]) e
      | none => .free (dir ++ [name])) := by
  obtain ⟨dirs, hparts, hwalk⟩ := h.walk
  have hne : path.isEmpty = false := by
    cases path with
    | cons => rfl
    | nil =>
        obtain rfl : [] = name := by simpa [splitOn] using congrArg List.getLast? hparts
        exact absurd rfl h.is_name.not_stay
  have hfollow : t.follow path (start path) (splitOn '/' path) = .ok (match t.get? (dir ++ [name]) with
      | some e => .entry (dir ++ [name]) e
      | none => .free (dir ++ [name])) := by
    rw [hparts, hwalk.follow_append, follow_cons h.is_name]
    cases t.get? (dir ++ [name]) with
    | none => rfl
    | some e => cases e <;> rfl
  rw [resolve, h.no_null, hne, if_neg Bool.false_ne_true, if_neg Bool.false_ne_true, if_neg h.short]
  exact congrArg (Except.mapError FileError.os) hfollow

theorem Leads.put (h : Leads t path dir name) (hplace : t.get? place ≠ some .directory) (entry : FileEntry) :
    Leads (t.put place entry) path dir name := by
  obtain ⟨dirs, hparts, hwalk⟩ := h.walk
  exact ⟨h.no_null, h.short, h.is_name, dirs, hparts, hwalk.put hplace entry⟩

/-- Where a file is written when it is opened at a path. -/
def filePlace? (t : FileTree) (path : Text) : Option Place :=
  match t.resolve path with
  | .ok target => target.filePlace?
  | .error _ => none

theorem follow_of_resolve {target : Target} (h : t.resolve path = .ok target) :
    path.contains '\x00' = false ∧ ¬4095 < (Utf8.encode path).length
      ∧ t.follow path (start path) (splitOn '/' path) = .ok target := by
  unfold resolve at h
  by_cases hnull : path.contains '\x00' = true
  · rw [if_pos hnull] at h
    cases h
  by_cases hempty : path.isEmpty = true
  · rw [if_neg hnull, if_pos hempty] at h
    cases h
  by_cases hlong : 4095 < (Utf8.encode path).length
  · rw [if_neg hnull, if_neg hempty, if_pos hlong] at h
    cases h
  rw [if_neg hnull, if_neg hempty, if_neg hlong] at h
  refine ⟨Bool.not_eq_true _ ▸ hnull, hlong, ?_⟩
  cases hfollow : t.follow path (start path) (splitOn '/' path) with
  | error e =>
      have hfailed : Except.error (FileError.os e) = Except.ok target :=
        (congrArg (Except.mapError FileError.os) hfollow).symm.trans h
      cases hfailed
  | ok found =>
      have hfound : Except.ok found = Except.ok target :=
        (congrArg (Except.mapError FileError.os) hfollow).symm.trans h
      cases hfound
      rfl

theorem exists_leads (h : t.filePlace? path = some place) :
    ∃ dir name, Leads t path dir name ∧ place = dir ++ [name] ∧ t.get? place ≠ some .directory := by
  unfold filePlace? at h
  cases hresolve : t.resolve path with
  | error e =>
      rw [hresolve] at h
      cases h
  | ok target =>
      rw [hresolve] at h
      obtain ⟨hnull, hlong, hfollow⟩ := follow_of_resolve hresolve
      obtain ⟨dirs, dir, name, hparts, hwalk, hname, hplace⟩ := exists_walk_of_follow hfollow h
      exact ⟨dir, name, ⟨hnull, hlong, hname, dirs, hparts, hwalk⟩, hplace⟩

/-- A directory in front of a name, as a path writes it. -/
def IsDirectory (directory : Text) : Prop :=
  directory = [] ∨ directory.getLast? = some '/'

theorem IsDirectory.exists_splitOn {directory : Text} (h : IsDirectory directory) :
    ∃ dirs, ∀ name, '/' ∉ name → splitOn '/' (directory ++ name) = dirs ++ [name] := by
  rcases h with rfl | h
  · exact ⟨[], fun name hname => splitOn_of_not_mem hname⟩
  · obtain ⟨above, rfl⟩ := List.getLast?_eq_some_iff.mp h
    refine ⟨splitOn '/' above, fun name hname => ?_⟩
    rw [List.append_assoc, List.singleton_append, splitOn_append_cons, splitOn_of_not_mem hname]

/-- Files of one directory with different names are in different places. -/
theorem eq_of_filePlace?_eq {directory other : Text} (hdirectory : IsDirectory directory) (hname : '/' ∉ name)
    (hother : '/' ∉ other) (h : t.filePlace? (directory ++ name) = some place)
    (h' : t.filePlace? (directory ++ other) = some place) : name = other := by
  obtain ⟨dir, last, hleads, rfl, -⟩ := exists_leads h
  obtain ⟨dir', last', hleads', hplace, -⟩ := exists_leads h'
  obtain ⟨dirs, hparts, -⟩ := hleads.walk
  obtain ⟨dirs', hparts', -⟩ := hleads'.walk
  obtain ⟨front, hfront⟩ := hdirectory.exists_splitOn
  rw [hfront name hname] at hparts
  rw [hfront other hother] at hparts'
  obtain ⟨-, rfl⟩ := List.append_singleton_inj.mp hparts
  obtain ⟨-, rfl⟩ := List.append_singleton_inj.mp hparts'
  exact (List.append_singleton_inj.mp hplace).2

/-! ## Reading and writing -/

theorem Leads.filePlace?_eq (h : Leads t path dir name) (hdirectory : t.get? (dir ++ [name]) ≠ some .directory) :
    t.filePlace? path = some (dir ++ [name]) := by
  rw [filePlace?, h.resolve_eq]
  cases hget : t.get? (dir ++ [name]) with
  | none => rfl
  | some e =>
      cases e with
      | file => rfl
      | directory => exact absurd hget hdirectory

theorem filePlace?_put {other : Place} (h : t.filePlace? path = some place) (hother : t.get? other ≠ some .directory)
    (bytes : Bytes) : (t.put other (.file bytes)).filePlace? path = some place := by
  obtain ⟨dir, name, hleads, rfl, hdirectory⟩ := exists_leads h
  refine (hleads.put hother _).filePlace?_eq ?_
  by_cases hne : dir ++ [name] = other
  · rw [← hne, get?_put_self hdirectory]
    simp
  · rwa [get?_put_of_ne hne]

theorem read_eq_ok_iff :
    t.read path = .ok bytes ↔ ∃ place, t.filePlace? path = some place ∧ t.get? place = some (.file bytes) := by
  constructor
  · intro h
    cases hresolve : t.resolve path with
    | error e =>
        rw [read, hresolve] at h
        cases h
    | ok target =>
        rw [read, hresolve] at h
        match target with
        | .entry place (.file content) =>
            cases h
            have hplace : t.filePlace? path = some place := by rw [filePlace?, hresolve]; rfl
            obtain ⟨dir, name, hleads, rfl, -⟩ := exists_leads hplace
            refine ⟨_, hplace, ?_⟩
            rw [hleads.resolve_eq] at hresolve
            cases hget : t.get? (dir ++ [name]) with
            | none => simp [hget] at hresolve
            | some e => simpa [hget] using hresolve
        | .entry place .directory => cases h
        | .free place => cases h
        | .freeDirectory => cases h
  · rintro ⟨place, hplace, hget⟩
    obtain ⟨dir, name, hleads, rfl, -⟩ := exists_leads hplace
    rw [read, hleads.resolve_eq, hget]

theorem write_of_filePlace? (h : t.filePlace? path = some place) (bytes : Bytes) :
    t.write path bytes = .ok (t.put place (.file bytes)) := by
  obtain ⟨dir, name, hleads, rfl, hdirectory⟩ := exists_leads h
  rw [write, hleads.resolve_eq]
  cases hget : t.get? (dir ++ [name]) with
  | none => rfl
  | some e =>
      cases e with
      | file => rfl
      | directory => exact absurd hget hdirectory

theorem read_put_self (h : t.filePlace? path = some place) (bytes : Bytes) :
    (t.put place (.file bytes)).read path = .ok bytes := by
  obtain ⟨-, -, -, -, hdirectory⟩ := exists_leads h
  exact read_eq_ok_iff.mpr ⟨place, filePlace?_put h hdirectory bytes, get?_put_self hdirectory _⟩

theorem read_put_of_ne {other : Place} (h : t.read path = .ok bytes) (hother : t.get? other ≠ some .directory)
    (hne : t.filePlace? path ≠ some other) (new : Bytes) : (t.put other (.file new)).read path = .ok bytes := by
  obtain ⟨place, hplace, hget⟩ := read_eq_ok_iff.mp h
  have hapart : place ≠ other := fun heq => hne (heq ▸ hplace)
  exact read_eq_ok_iff.mpr ⟨place, filePlace?_put hplace hother new, by rw [get?_put_of_ne hapart, hget]⟩

end FlowLang.FileTree
