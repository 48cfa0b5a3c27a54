import Mathlib.Data.List.Infix
import WorkerSettings.Settings

/-!
# Valid settings

What the checks of settings amount to, said without running them. `Settings.Valid` is what
they ask for, and `Settings.FirstFault` is which of them fails first: its constructors are the
checks in their order, each with what the ones before it have found.
-/

namespace WorkerSettings

namespace Identity

/-- The text was filled in: some character of it is not blank, and no placeholder is opened. -/
structure Filled (s : String) : Prop where
  visible : ∃ c ∈ s.toList, Text.isBlank c = false
  substituted : ¬ ['$', '\x7b'] <:+: s.toList

theorem hasPlaceholder_iff {cs : List Char} :
    hasPlaceholder cs = true ↔ ['$', '\x7b'] <:+: cs := by
  fun_induction hasPlaceholder cs with
  | case1 rest => simp [List.infix_cons_iff]
  | case2 c cs other ih =>
    rw [ih, List.infix_cons_iff]
    refine ⟨.inr, ?_⟩
    rintro (initial | later)
    · obtain ⟨rest, same⟩ := initial
      cases same
      exact (other rest rfl rfl).elim
    · exact later
  | case3 => simp

theorem isFilled_iff {s : String} : isFilled s = true ↔ Filled s := by
  rw [isFilled, Bool.and_eq_true, List.any_eq_true, Bool.not_eq_true', ← Bool.not_eq_true,
    hasPlaceholder_iff]
  simp only [Bool.not_eq_true']
  constructor
  · rintro ⟨visible, substituted⟩
    exact ⟨visible, substituted⟩
  · rintro ⟨visible, substituted⟩
    exact ⟨visible, substituted⟩

theorem ofTexts_of_filled {name version : String} (name_filled : Filled name)
    (version_filled : Filled version) :
    ofTexts name version = .ok
      { name, version
        name_filled := isFilled_iff.mpr name_filled
        version_filled := isFilled_iff.mpr version_filled } := by
  rw [ofTexts, dif_pos (isFilled_iff.mpr name_filled), dif_pos (isFilled_iff.mpr version_filled)]

theorem ofTexts_of_not_name {name : String} (unfilled : ¬ Filled name) (version : String) :
    ofTexts name version = .error (.missingDefault .name) := by
  rw [ofTexts, dif_neg (isFilled_iff.not.mpr unfilled)]

theorem ofTexts_of_not_version {name version : String} (name_filled : Filled name)
    (unfilled : ¬ Filled version) :
    ofTexts name version = .error (.missingDefault .version) := by
  rw [ofTexts, dif_pos (isFilled_iff.mpr name_filled), dif_neg (isFilled_iff.not.mpr unfilled)]

end Identity

namespace Settings

open Identity (Filled)

def ThreadsInRange (threads : UInt32) : Prop :=
  1 ≤ threads.toNat ∧ threads.toNat ≤ 20

instance (threads : UInt32) : Decidable (ThreadsInRange threads) :=
  inferInstanceAs (Decidable (1 ≤ threads.toNat ∧ threads.toNat ≤ 20))

structure Valid (settings : Settings) : Prop where
  name : Filled settings.workerName
  version : Filled settings.workerVersion
  queue : settings.outputQueue ≠ ""
  threads : ThreadsInRange settings.threads

/-- The first check that the settings fail ends in the fault. -/
inductive FirstFault (settings : Settings) : Fault → Prop
  | name (unfilled : ¬ Filled settings.workerName) : FirstFault settings (.missingDefault .name)
  | version (name : Filled settings.workerName) (unfilled : ¬ Filled settings.workerVersion) :
      FirstFault settings (.missingDefault .version)
  | queue (name : Filled settings.workerName) (version : Filled settings.workerVersion)
      (empty : settings.outputQueue = "") : FirstFault settings .emptyOutputQueue
  | threads (name : Filled settings.workerName) (version : Filled settings.workerVersion)
      (queue : settings.outputQueue ≠ "") (outside : ¬ ThreadsInRange settings.threads) :
      FirstFault settings (.invalidThreads settings.threads)

theorem valid_or_firstFault (settings : Settings) :
    Valid settings ∨ ∃ fault, FirstFault settings fault := by
  by_cases name : Filled settings.workerName
  · by_cases version : Filled settings.workerVersion
    · by_cases queue : settings.outputQueue = ""
      · exact .inr ⟨_, .queue name version queue⟩
      · by_cases threads : ThreadsInRange settings.threads
        · exact .inl ⟨name, version, queue, threads⟩
        · exact .inr ⟨_, .threads name version queue threads⟩
    · exact .inr ⟨_, .version name version⟩
  · exact .inr ⟨_, .name name⟩

theorem inRange_iff {threads : UInt32} :
    Defaults.minThreads ≤ threads ∧ threads ≤ Defaults.maxThreads ↔ ThreadsInRange threads := by
  rw [UInt32.le_iff_toNat_le, UInt32.le_iff_toNat_le]
  rfl

/-- Behind the identity there are two more checks. -/
theorem validate_of_filled {settings : Settings} (name : Filled settings.workerName)
    (version : Filled settings.workerVersion) :
    settings.validate = if settings.outputQueue = "" then .error .emptyOutputQueue
      else checkThreads settings.threads := by
  rw [validate, Identity.ofTexts_of_filled name version]
  by_cases empty : settings.outputQueue = ""
  · rw [if_pos empty, empty]
    rfl
  · simp [bind, Except.bind, empty]

theorem Valid.validate {settings : Settings} (valid : Valid settings) :
    settings.validate = .ok () := by
  rw [validate_of_filled valid.name valid.version, if_neg valid.queue, checkThreads,
    if_pos (inRange_iff.mpr valid.threads)]

theorem FirstFault.validate {settings : Settings} {fault : Fault}
    (first : FirstFault settings fault) : settings.validate = .error fault := by
  cases first with
  | name unfilled =>
    rw [Settings.validate, Identity.ofTexts_of_not_name unfilled]
    rfl
  | version name unfilled =>
    rw [Settings.validate, Identity.ofTexts_of_not_version name unfilled]
    rfl
  | queue name version empty => rw [validate_of_filled name version, if_pos empty]
  | threads name version queue outside =>
    rw [validate_of_filled name version, if_neg queue, checkThreads,
      if_neg (inRange_iff.not.mpr outside)]

theorem validate_eq_ok_iff {settings : Settings} :
    settings.validate = .ok () ↔ Valid settings := by
  refine ⟨fun ok => ?_, Valid.validate⟩
  rcases settings.valid_or_firstFault with valid | ⟨fault, first⟩
  · exact valid
  · cases ok.symm.trans first.validate

theorem validate_eq_error_iff {settings : Settings} {fault : Fault} :
    settings.validate = .error fault ↔ FirstFault settings fault := by
  refine ⟨fun failed => ?_, FirstFault.validate⟩
  rcases settings.valid_or_firstFault with valid | ⟨fault', first⟩
  · cases failed.symm.trans valid.validate
  · cases failed.symm.trans first.validate
    exact first

theorem validated_eq_ok_iff {settings accepted : Settings} :
    settings.validated = .ok accepted ↔ settings.validate = .ok () ∧ accepted = settings := by
  rw [validated]
  cases settings.validate with
  | error fault =>
    constructor
    · intro ok
      cases ok
    · rintro ⟨ok, _⟩
      cases ok
  | ok =>
    constructor
    · intro ok
      cases ok
      exact ⟨rfl, rfl⟩
    · rintro ⟨_, rfl⟩
      rfl

theorem validated_eq_error_iff {settings : Settings} {fault : Fault} :
    settings.validated = .error fault ↔ FirstFault settings fault := by
  rw [← validate_eq_error_iff, validated]
  cases settings.validate with
  | error fault' => simp [bind, Except.bind]
  | ok =>
    constructor
    · intro failed
      cases failed
    · intro failed
      cases failed

end Settings

end WorkerSettings
