import Mathlib.Data.List.Induction
import WorkerSettings.EnvFile.Search

/-!
# What a search ends with

A search ends at the nearest directory in which the look finds a file or fails. Said without a
search, that is the longest initial part of the path at which the look does so. The same looks
make the same search in every monad.
-/

namespace WorkerSettings

theorem Path.upward_append (path : Path) (name : String) :
    upward (path ++ [name]) = (path ++ [name]) :: upward path := by
  simp only [upward, List.length_append, List.length_singleton]
  rw [List.range_succ, List.reverse_append, List.map_append]
  simp only [List.reverse_singleton, List.map_singleton, List.singleton_append, List.cons.injEq]
  constructor
  · rw [List.take_of_length_le (by simp)]
  · refine List.map_congr_left fun depth member => ?_
    rw [List.mem_reverse, List.mem_range] at member
    exact List.take_append_of_le_length (by omega)

namespace EnvFile

/-- A look in the directory or above it says this, and every nearer one finds no file. -/
def Nearest (look : Path → Search) (directory : Path) (said : Search) : Prop :=
  ∃ above, above <+: directory ∧ look above = said ∧
    ∀ nearer, nearer <+: directory → above.length < nearer.length → look nearer = .ok none

variable {look : Path → Search} {path : Path} {name : String} {said : Search}

theorem nearest_self (look : Path → Search) (directory : Path) :
    Nearest look directory (look directory) := by
  refine ⟨directory, List.prefix_rfl, rfl, fun nearer initial longer => ?_⟩
  exact (Nat.not_lt_of_le initial.length_le longer).elim

theorem nearest_nil_iff : Nearest look [] said ↔ look [] = said := by
  simp [Nearest]

theorem nearest_append_of_none (missing : look (path ++ [name]) = .ok none)
    (ends : said ≠ .ok none) : Nearest look (path ++ [name]) said ↔ Nearest look path said := by
  constructor
  · rintro ⟨above, initial, decides, nearest⟩
    rcases List.prefix_concat_iff.mp initial with rfl | initial
    · exact (ends (decides.symm.trans missing)).elim
    · refine ⟨above, initial, decides, fun nearer initial' longer => ?_⟩
      exact nearest nearer (initial'.trans (List.prefix_append _ _)) longer
  · rintro ⟨above, initial, decides, nearest⟩
    refine ⟨above, initial.trans (List.prefix_append _ _), decides, ?_⟩
    intro nearer initial' longer
    rcases List.prefix_concat_iff.mp initial' with rfl | initial'
    · exact missing
    · exact nearest nearer initial' longer

theorem nearest_append_of_ne (ends : look (path ++ [name]) ≠ .ok none) :
    Nearest look (path ++ [name]) said ↔ look (path ++ [name]) = said := by
  constructor
  · rintro ⟨above, initial, decides, nearest⟩
    rcases List.prefix_concat_iff.mp initial with rfl | initial
    · exact decides
    · refine (ends (nearest _ List.prefix_rfl ?_)).elim
      rw [List.length_append, List.length_singleton]
      exact Nat.lt_succ_of_le initial.length_le
  · rintro rfl
    exact nearest_self look _

theorem findSomeM?_cons_of_none (missing : look path = .ok none) (paths : List Path) :
    (path :: paths).findSomeM? look = paths.findSomeM? look := by
  rw [List.findSomeM?_cons, missing]
  rfl

theorem findSomeM?_cons_of_ne (ends : look path ≠ .ok none) (paths : List Path) :
    (path :: paths).findSomeM? look = look path := by
  rw [List.findSomeM?_cons]
  cases found : look path with
  | error failure => rfl
  | ok contents? =>
    cases contents? with
    | none => exact (ends found).elim
    | some contents => rfl

theorem search_nil : search look [] = look [] := by
  change [[]].findSomeM? look = look []
  by_cases missing : look [] = .ok none
  · rw [findSomeM?_cons_of_none missing, missing]
    rfl
  · exact findSomeM?_cons_of_ne missing []

theorem search_append_of_none (missing : look (path ++ [name]) = .ok none) :
    search look (path ++ [name]) = search look path := by
  rw [search, Path.upward_append, findSomeM?_cons_of_none missing, search]

theorem search_append_of_ne (ends : look (path ++ [name]) ≠ .ok none) :
    search look (path ++ [name]) = look (path ++ [name]) := by
  rw [search, Path.upward_append, findSomeM?_cons_of_ne ends]

theorem search_eq_none_iff {directory : Path} :
    search look directory = .ok none ↔ ∀ above, above <+: directory → look above = .ok none := by
  induction directory using List.reverseRecOn with
  | nil => simp [search_nil]
  | append_singleton path name ih =>
    constructor
    · intro missing above initial
      have here : look (path ++ [name]) = .ok none := by
        by_contra ends
        exact ends ((search_append_of_ne ends).symm.trans missing)
      rw [search_append_of_none here] at missing
      rcases List.prefix_concat_iff.mp initial with rfl | initial
      · exact here
      · exact ih.mp missing above initial
    · intro missing
      rw [search_append_of_none (missing _ List.prefix_rfl)]
      exact ih.mpr fun above initial => missing above (initial.trans (List.prefix_append _ _))

/-- A search that finds a file or fails ends with what the nearest look says that does so. -/
theorem search_eq_iff (directory : Path) (ends : said ≠ .ok none) :
    search look directory = said ↔ Nearest look directory said := by
  induction directory using List.reverseRecOn with
  | nil => rw [search_nil, nearest_nil_iff]
  | append_singleton path name ih =>
    by_cases missing : look (path ++ [name]) = .ok none
    · rw [search_append_of_none missing, nearest_append_of_none missing ends]
      exact ih
    · rw [search_append_of_ne missing, nearest_append_of_ne missing]

/-- Looks in a monad that each end in a known way make a search that ends as that of the ways. -/
theorem search_run {m : Type → Type} [Monad m] [LawfulMonad m]
    {lookM : Path → ExceptT FileFailure m (Option ByteArray)}
    (agree : ∀ directory, (lookM directory).run = pure (look directory)) (directory : Path) :
    (search lookM directory).run = pure (search look directory) := by
  rw [search, search]
  induction directory.upward with
  | nil => rfl
  | cons path paths ih =>
    rw [List.findSomeM?_cons, List.findSomeM?_cons, ExceptT.run_bind, agree, pure_bind]
    cases look path with
    | error failure => rfl
    | ok contents? =>
      cases contents? with
      | none => exact ih
      | some contents => rfl

end EnvFile

end WorkerSettings
