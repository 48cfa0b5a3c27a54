/-!
# The last entry that decides

What holds after a run is often said of its last entry of some sort, with nothing of another sort
behind it. Read from its end, a run either ends with such an entry, or it ends with one that does
not matter and the entry is found before that.
-/

namespace WorkerSettings

theorem exists_last_concat_iff.{u} {α : Type u} {decides silent : α → Prop} {entries : List α}
    {entry : α} :
    (∃ before last after, entries ++ [entry] = before ++ last :: after ∧ decides last ∧
      ∀ later ∈ after, silent later) ↔
    decides entry ∨ silent entry ∧
      ∃ before last after, entries = before ++ last :: after ∧ decides last ∧
        ∀ later ∈ after, silent later := by
  constructor
  · rintro ⟨before, last, after, split, decisive, others⟩
    rcases List.eq_nil_or_concat after with rfl | ⟨after, final, rfl⟩
    · obtain ⟨_, same⟩ := List.append_inj' split rfl
      cases same
      exact .inl decisive
    · rw [List.concat_eq_append, ← List.cons_append, ← List.append_assoc] at split
      obtain ⟨rfl, same⟩ := List.append_inj' split rfl
      cases same
      refine .inr ⟨others entry (by simp), before, last, after, rfl, decisive, ?_⟩
      exact fun later member => others later (by simp [member])
  · rintro (decisive | ⟨quiet, before, last, after, rfl, decisive, others⟩)
    · exact ⟨entries, entry, [], rfl, decisive, fun later member => by cases member⟩
    · refine ⟨before, last, after ++ [entry], by simp, decisive, fun later member => ?_⟩
      rcases List.mem_append.mp member with member | member
      · exact others later member
      · cases List.mem_singleton.mp member
        exact quiet

end WorkerSettings
