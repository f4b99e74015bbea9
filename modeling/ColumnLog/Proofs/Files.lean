import ColumnLog.FileTree

/-!
# Files in their places

A file is written at the place that a path leads to, and found there.  A path is followed through
directories that may have changed in between, so it has to be shown that what is written makes no
difference to where paths lead.

* `FileTree.find_cons_eq_ok`, `FileTree.place_cons_eq_ok` and `FileTree.locate_cons_eq_ok` open one
  step on the way.
* `FileTree.find_place` finds what was put in a place, `FileTree.find_place_of_find` everything else,
  and `FileTree.locate_place` says that paths lead where they led before.
* `FileTree.HasRoom` says where a file can be written, and `FileTree.HasRoom.exists_write` is the
  result about such places; `FileTree.find_root_write` is the one about the other files.
-/

set_option autoImplicit false

namespace ColumnLog
namespace FileTree

variable {root file new kept : FileTree} {dir names more other trail : List String}
  {name part path : String} {entries : List (String × FileTree)}

/-- Whether this is a file, and no directory. -/
def isFile : FileTree → Bool
  | folder _ => false
  | _ => true

/-- There is room for a file at a path: the path leads to a place for one, and there is nothing yet,
or a file, whatever is in it. -/
def HasRoom (root : FileTree) (path : String) : Prop :=
  ∃ names, root.target path = .ok names ∧ ∀ entries, root.find names ≠ .ok (folder entries)

/-! ## Names -/

theorem find_cons_eq_ok : root.find (name :: names) = .ok kept ↔
    ∃ entries entry, root = folder entries ∧ entries.lookup name = some entry ∧
      entry.find names = .ok kept := by
  cases root with
  | folder entries => cases inside : entries.lookup name <;> simp [find, inside]
  | _ => simp [find]

theorem place_cons_eq_ok {old : Option FileTree} : place file (name :: names) old = .ok new ↔
    ∃ entries entry, old = some (folder entries) ∧
      place file names (entries.lookup name) = .ok entry ∧
      new = folder (Keyed.put name entry entries) := by
  rcases old with _ | _ | _ | entries
  case some.folder =>
    cases under : place file names (entries.lookup name) <;>
      simp [place, under, Except.map, eq_comm]
  all_goals simp [place]

theorem find_append_eq_ok : root.find (names ++ more) = .ok kept ↔
    ∃ entry, root.find names = .ok entry ∧ entry.find more = .ok kept := by
  induction names generalizing root with
  | nil => simp [find]
  | cons name names ih =>
    simp only [List.cons_append, find_cons_eq_ok, ih]
    constructor
    · rintro ⟨entries, entry, rfl, inside, last, found, rest⟩
      exact ⟨last, ⟨entries, entry, rfl, inside, found⟩, rest⟩
    · rintro ⟨last, ⟨entries, entry, rfl, inside, found⟩, rest⟩
      exact ⟨entries, entry, rfl, inside, last, found, rest⟩

/-- Above a directory there are only directories. -/
theorem exists_find_dropLast (found : root.find dir = .ok (folder entries)) :
    ∃ above, root.find dir.dropLast = .ok (folder above) := by
  rcases List.eq_nil_or_concat dir with rfl | ⟨dir, name, rfl⟩
  · exact ⟨entries, found⟩
  · rw [List.concat_eq_append] at found ⊢
    obtain ⟨entry, up, below⟩ := find_append_eq_ok.mp found
    obtain ⟨above, _, rfl, -⟩ := find_cons_eq_ok.mp below
    exact ⟨above, by rwa [List.dropLast_concat]⟩

/-- What is put in a place is found there. -/
theorem find_place {old : Option FileTree} (placed : place file names old = .ok new) :
    new.find names = .ok file := by
  induction names generalizing old new with
  | nil => rcases old with _ | _ | _ | entries <;> cases placed <;> rfl
  | cons name names ih =>
    obtain ⟨entries, entry, -, under, rfl⟩ := place_cons_eq_ok.mp placed
    exact find_cons_eq_ok.mpr ⟨_, entry, rfl, Keyed.lookup_put_self .., ih under⟩

/-- Other files stay as they are, and directories stay directories. -/
theorem find_place_of_find (placed : place file names (some root) = .ok new)
    (found : root.find other = .ok kept) (ne : kept.isFile = true → other ≠ names) :
    ∃ now, new.find other = .ok now ∧ now.isFile = kept.isFile ∧
      (kept.isFile = true → now = kept) := by
  induction names generalizing root new other with
  | nil =>
    cases other with
    | nil =>
      cases found
      cases kept with
      | folder entries => cases placed
      | _ => exact absurd rfl (ne rfl)
    | cons first other =>
      obtain ⟨entries, _, rfl, -⟩ := find_cons_eq_ok.mp found
      cases placed
  | cons name names ih =>
    obtain ⟨entries, entry, here, under, rfl⟩ := place_cons_eq_ok.mp placed
    cases here
    cases other with
    | nil =>
      cases found
      exact ⟨_, rfl, rfl, nofun⟩
    | cons first other =>
      obtain ⟨_, old, here, inside, found⟩ := find_cons_eq_ok.mp found
      cases here
      by_cases same : first = name
      · subst same
        rw [inside] at under
        obtain ⟨now, found, like⟩ := ih under found fun plain eq => ne plain (congrArg _ eq)
        exact ⟨now, find_cons_eq_ok.mpr ⟨_, _, rfl, Keyed.lookup_put_self .., found⟩, like⟩
      · have inside' := (Keyed.lookup_put_of_ne same entry entries).trans inside
        exact ⟨kept, find_cons_eq_ok.mpr ⟨_, _, rfl, inside', found⟩, rfl, fun _ => rfl⟩

theorem exists_place (file : FileTree) (found : root.find dir = .ok (folder entries))
    (free : ∀ sub, entries.lookup name ≠ some (folder sub)) :
    ∃ new, place file (dir ++ [name]) (some root) = .ok new := by
  induction dir generalizing root with
  | nil =>
    cases found
    have placed : place file [] (entries.lookup name) = .ok file := by
      rcases eq : entries.lookup name with _ | _ | _ | sub
      case some.folder => exact absurd eq (free sub)
      all_goals rfl
    exact ⟨_, place_cons_eq_ok.mpr ⟨_, _, rfl, placed, rfl⟩⟩
  | cons first dir ih =>
    obtain ⟨outer, entry, rfl, inside, found⟩ := find_cons_eq_ok.mp found
    obtain ⟨new, placed⟩ := ih found
    exact ⟨_, place_cons_eq_ok.mpr ⟨_, new, rfl, inside ▸ placed, rfl⟩⟩

/-! ## Paths -/

theorem locate_cons_eq_ok : root.locate dir (part :: trail) = .ok names ↔
    ∃ entries, root.find dir = .ok (folder entries) ∧ part.utf8ByteSize ≤ 255 ∧
      root.locate (enter dir part) trail = .ok names := by
  rw [locate]
  split
  · next entries here =>
    by_cases short : part.utf8ByteSize ≤ 255
    · simp [here, short, Nat.not_lt.mpr short]
    · simp [here, short, Nat.not_le.mp short]
  · next here => simp_all
  · next here => simp [here]

/-- The last part of a path is taken in a directory that is there. -/
theorem locate_cases (located : root.locate dir trail = .ok names) :
    names = dir ∧ trail = [] ∨
      ∃ above entries part, root.find above = .ok (folder entries) ∧ names = enter above part := by
  induction trail generalizing dir with
  | nil =>
    cases located
    exact .inl ⟨rfl, rfl⟩
  | cons part trail ih =>
    obtain ⟨entries, here, -, rest⟩ := locate_cons_eq_ok.mp located
    rcases ih rest with ⟨rfl, -⟩ | above
    · exact .inr ⟨dir, entries, part, here, rfl⟩
    · exact .inr above

/-- A file can be put wherever a path leads, unless there is a directory. -/
theorem exists_place_of_locate (file : FileTree) (located : root.locate [] trail = .ok names)
    (free : ∀ entries, root.find names ≠ .ok (folder entries)) :
    ∃ new, place file names (some root) = .ok new := by
  rcases locate_cases located with ⟨rfl, -⟩ | ⟨above, entries, part, found, rfl⟩
  · cases root with
    | folder entries => exact absurd rfl (free entries)
    | _ => exact ⟨file, rfl⟩
  · -- a dot, or two, lead to a directory
    unfold enter at free ⊢
    split at free
    · exact absurd found (free entries)
    · split at free
      · obtain ⟨outer, up⟩ := exists_find_dropLast found
        exact absurd up (free outer)
      · next stay up =>
        rw [if_neg stay, if_neg up]
        refine exists_place file found fun sub inside => free sub ?_
        exact find_append_eq_ok.mpr
          ⟨_, found, find_cons_eq_ok.mpr ⟨entries, folder sub, rfl, inside, rfl⟩⟩

/-- Paths lead where they led before a file was put somewhere. -/
theorem locate_place (placed : place file names (some root) = .ok new)
    (located : root.locate dir trail = .ok other) : new.locate dir trail = .ok other := by
  induction trail generalizing dir with
  | nil => exact located
  | cons part trail ih =>
    obtain ⟨entries, here, short, rest⟩ := locate_cons_eq_ok.mp located
    obtain ⟨now, found, like, -⟩ := find_place_of_find placed here nofun
    cases now with
    | folder now => exact locate_cons_eq_ok.mpr ⟨now, found, short, ih rest⟩
    | _ => cases like

/-- A path under which a file can be written has nothing wrong, and is followed as it is. -/
theorem target_eq_ok (led : root.target path = .ok names) :
    checkPath path = .ok () ∧ asksFolder path = false ∧
      root.locate [] (parts path) = .ok names := by
  rw [target] at led
  cases checked : checkPath path with
  | error fault => rw [checked] at led; cases led
  | ok =>
    rw [checked] at led
    cases asks : asksFolder path with
    | true =>
      rw [asks] at led
      cases located : root.locate [] ((parts path).dropLast ++ ["."]) with
      | error fault => rw [located] at led; cases led
      | ok above => rw [located] at led; cases led
    | false =>
      rw [asks] at led
      exact ⟨rfl, rfl, led⟩

theorem follow_eq_find (checked : checkPath path = .ok ()) (asks : asksFolder path = false)
    (located : root.locate [] (parts path) = .ok names) :
    root.follow path = root.find names := by
  rw [follow, checked, asks]
  simp only [Bool.false_eq_true, if_false, List.append_nil, located]
  rfl

/-! ## Writing -/

theorem write_of_place (led : root.target path = .ok names)
    (placed : place file names (some root) = .ok new) : root.write path file = .ok () new := by
  have both : (root.target path >>= fun names => place file names (some root)) = .ok new := by
    rw [led]
    exact placed
  rw [write, both]

/-- All that writing can come to: it puts the file in its place, or nothing happens. -/
theorem write_cases (root : FileTree) (path : String) (file : FileTree) :
    (∃ fault, root.write path file = .error fault root) ∨
      ∃ names new, root.target path = .ok names ∧ place file names (some root) = .ok new ∧
        root.write path file = .ok () new := by
  cases both : root.target path >>= fun names => place file names (some root) with
  | error fault => exact .inl ⟨fault, by rw [write, both]⟩
  | ok new =>
    cases led : root.target path with
    | error fault => rw [led] at both; cases both
    | ok names =>
      rw [led] at both
      exact .inr ⟨names, new, rfl, both, write_of_place led both⟩

/-- **Where there is room, writing succeeds, and what is written is found.** -/
theorem HasRoom.exists_write (room : root.HasRoom path) (file : FileTree) :
    ∃ new, root.write path file = .ok () new ∧ new.follow path = .ok file := by
  obtain ⟨names, led, free⟩ := room
  obtain ⟨checked, asks, located⟩ := target_eq_ok led
  obtain ⟨new, placed⟩ := exists_place_of_locate file located free
  refine ⟨new, write_of_place led placed, ?_⟩
  rw [follow_eq_find checked asks (locate_place placed located), find_place placed]

/-- A file at which nothing is written stays as it is, whether or not writing succeeds. -/
theorem find_root_write (found : root.find other = .ok kept) (plain : kept.isFile = true)
    (ne : root.target path ≠ .ok other) (file : FileTree) :
    (root.write path file).root.find other = .ok kept := by
  rcases root.write_cases path file with ⟨fault, failed⟩ | ⟨names, new, led, placed, written⟩
  · rw [failed]
    exact found
  · have elsewhere : other ≠ names := fun eq => ne (eq ▸ led)
    obtain ⟨now, found', -, same⟩ := find_place_of_find placed found fun _ => elsewhere
    rw [written, ← same plain]
    exact found'

@[simp]
theorem Attempt.root_mapError {ε δ : Type} (f : ε → δ) (a : Attempt ε) :
    (a.mapError f).root = a.root := by
  cases a <;> rfl

end FileTree
end ColumnLog
