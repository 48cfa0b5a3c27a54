import WorkerSettings.Proofs.Json.Lists
import WorkerSettings.Proofs.Json.PersistentValues

/-!
# Where a record ends

The readers of a record go through a text once, so each is persistent if those that it calls
are. A record ends with a bracket, and a bracket is never carried on. From this the frame of a
record follows: what is cut off before its bracket is missed, what follows the bracket has to be
blank, and what is found wrong with a text that ends with a bracket does not depend on what
follows it.
-/

namespace WorkerSettings.Json

theorem persistent_skipString (cs : List Char) :
    Persistent (fun cs => .ofRest (skipString cs)) cs := by
  refine .of_rest isLexical_of_scan fun {rest} skipped => ?_
  obtain ⟨spelling, rfl, spelled⟩ := exists_spelling skipped
  refine ⟨(List.suffix_cons _ _).trans (List.suffix_append _ _), fun more => ?_⟩
  rw [List.append_assoc, List.cons_append, skipString_append spelled]

theorem persistent_skipAtom (cs : List Char) :
    Persistent (fun cs => .ofRest (skipAtom cs)) cs := by
  by_cases number : ∃ c rest, cs = c :: rest ∧ (c = '-' ∨ c.isDigit = true)
  · obtain ⟨c, rest, rfl, start⟩ := number
    refine .of_suffix (persistent_skipNumber (c :: rest)) List.suffix_rfl fun more => ?_
    rw [List.cons_append, skipAtom_number start]
  · fun_cases skipAtom cs with
    | case1 rest | case2 rest | case3 rest =>
      exact .of_suffix (persistent_readWord _ rest) (List.suffix_cons _ _) fun _ => rfl
    | case4 rest => exact .of_suffix (persistent_skipString rest) (List.suffix_cons _ _) fun _ => rfl
    | case5 c rest _ _ _ _ start => exact (number ⟨c, rest, rfl, start⟩).elim
    | case6 c rest _ _ _ _ other =>
      refine .of_lexical (.inr rfl) ?_
      simp [skipAtom, *]
    | case7 => exact .of_lexical (.inl rfl) rfl

theorem isLexical_of_readColon {cs : List Char} {rejection : Rejection}
    (failed : readColon cs = .error rejection) : rejection.IsLexical := by
  unfold readColon at failed
  split at failed
  · cases failed
    exact .inl rfl
  · cases failed
  · cases failed
    exact .inr rfl

theorem readColon_append_of_ok {cs rest : List Char} (read : readColon cs = .ok rest)
    (more : List Char) : readColon (cs ++ more) = .ok (rest ++ more) := by
  rw [readColon_eq_ok_iff] at read ⊢
  exact dropBlanks_append_of_cons read more

theorem persistent_readColon (cs : List Char) :
    Persistent (fun cs => .ofRest (readColon cs)) cs := by
  refine .of_rest isLexical_of_readColon fun {rest} read => ?_
  exact ⟨suffix_of_dropBlanks (readColon_eq_ok_iff.mp read), readColon_append_of_ok read⟩

/-- At the end of the text, nothing is left to close or something is missing. -/
theorem idle_skipAfter (around : List Bracket) :
    Idle fun cs => .ofRest (skipAfter around cs) := by
  cases around with
  | nil =>
    have ended : Reading.ofRest (skipAfter [] []) = .ok ((), []) := by
      rw [skipAfter_nil, Reading.ofRest_ok]
    exact .of_ok ended
  | cons bracket outer =>
    refine .of_truncated ?_
    rw [skipAfter_step]
    rfl

structure SkipsPersist (cs : List Char) : Prop where
  within : ∀ around, Persistent (fun cs => .ofRest (skipWithin around cs)) cs
  member : ∀ around, Persistent (fun cs => .ofRest (skipMember around cs)) cs
  after : ∀ around, Persistent (fun cs => .ofRest (skipAfter around cs)) cs

/-- A value that is no list and no object is passed over before what is left around it. -/
theorem ofRest_skipWithin (around : List Bracket) {cs rest : List Char} {c : Char}
    (start : dropBlanks cs = c :: rest) (notList : c ≠ '[') (notObject : c ≠ '\x7b') :
    Reading.ofRest (skipWithin around cs) =
      (Reading.ofRest (skipAtom (c :: rest))).andThen fun _ after =>
        .ofRest (skipAfter around after) := by
  simp only [skipWithin_step, start]
  cases skipAtom (c :: rest) <;> rfl

def skipContents : Bracket → List Bracket → List Char → Except Rejection (List Char)
  | .list, around, cs => skipWithin (.list :: around) cs
  | .object, around, cs => skipMember around cs

theorem SkipsPersist.contents {cs : List Char} (persist : SkipsPersist cs) (bracket : Bracket)
    (around : List Bracket) : Persistent (fun cs => .ofRest (skipContents bracket around cs)) cs := by
  cases bracket with
  | list => exact persist.within (.list :: around)
  | object => exact persist.member around

theorem skipWithin_opener (bracket : Bracket) (around : List Bracket) {cs rest : List Char}
    (start : dropBlanks cs = bracket.opener :: rest) :
    skipWithin around cs =
      match dropBlanks rest with
      | [] => .error .truncated
      | d :: after =>
        if d = bracket.closer then skipAfter around after else skipContents bracket around rest := by
  rw [skipWithin_step]
  cases bracket
  all_goals
    simp only [start, Bracket.opener, Bracket.closer, skipContents]
    cases dropBlanks rest with
    | nil => rfl
    | cons d after => split <;> simp_all

theorem skipAfter_cons (bracket : Bracket) (outer : List Bracket) {cs rest : List Char} {c : Char}
    (start : dropBlanks cs = c :: rest) :
    skipAfter (bracket :: outer) cs =
      if c = ',' then skipContents bracket outer rest
      else if c = bracket.closer then skipAfter outer rest
      else .error .malformed := by
  rw [skipAfter_step]
  cases bracket <;> simp only [start, skipContents]

def skipMemberAfterQuote (around : List Bracket) (cs : List Char) : Reading Unit :=
  (Reading.ofRest (skipString cs)).andThen fun _ afterKey =>
    (Reading.ofRest (readColon afterKey)).andThen fun _ after =>
      .ofRest (skipWithin (.object :: around) after)

theorem ofRest_skipMember (around : List Bracket) {cs rest : List Char}
    (start : dropBlanks cs = '"' :: rest) :
    Reading.ofRest (skipMember around cs) = skipMemberAfterQuote around rest := by
  simp only [skipMember_step, start, skipMemberAfterQuote]
  cases skipString rest with
  | error rejection => rfl
  | ok afterKey =>
    simp only [Reading.ofRest_ok, Reading.andThen_ok, readColon]
    cases dropBlanks afterKey with
    | nil => rfl
    | cons c after =>
      by_cases colon : c = ':'
      · subst colon
        rfl
      · simp

section

variable {cs : List Char} (shorter : ∀ ds : List Char, ds.length < cs.length → SkipsPersist ds)

include shorter

theorem persistent_skipWithin_opener (bracket : Bracket) (around : List Bracket)
    {rest : List Char} (start : dropBlanks cs = bracket.opener :: rest) :
    Persistent (fun cs => .ofRest (skipWithin around cs)) cs := by
  have less := length_lt_of_dropBlanks start
  have suffix := suffix_of_dropBlanks start
  cases first : dropBlanks rest with
  | nil =>
    refine .of_lexical (.inl rfl) ?_
    simp only [skipWithin_opener bracket around start, first, Reading.ofRest_error]
  | cons d after =>
    have less' := length_lt_of_dropBlanks first
    have step (more : List Char) := skipWithin_opener bracket around
      (dropBlanks_append_of_cons start more)
    by_cases closer : d = bracket.closer
    · refine .of_suffix ((shorter after (by omega)).after around)
        ((suffix_of_dropBlanks first).trans suffix) fun more => ?_
      simp only [step, dropBlanks_append_of_cons first, if_pos closer]
    · refine .of_suffix ((shorter rest less).contents bracket around) suffix fun more => ?_
      simp only [step, dropBlanks_append_of_cons first, if_neg closer]

theorem persistent_skipWithin (around : List Bracket) :
    Persistent (fun cs => .ofRest (skipWithin around cs)) cs := by
  cases start : dropBlanks cs with
  | nil =>
    refine .of_lexical (.inl rfl) ?_
    simp only [skipWithin_step, start, Reading.ofRest_error]
  | cons c rest =>
    by_cases list : c = '['
    · exact persistent_skipWithin_opener shorter .list around (list ▸ start)
    by_cases object : c = '\x7b'
    · exact persistent_skipWithin_opener shorter .object around (object ▸ start)
    have bound := dropBlanks_length_le cs
    rw [start] at bound
    have value : Persistent (fun ds => (Reading.ofRest (skipAtom ds)).andThen fun _ after =>
        .ofRest (skipAfter around after)) (c :: rest) := by
      refine .andThen (persistent_skipAtom (c :: rest)) (fun {_ after} skipped _ => ?_)
        fun _ _ => idle_skipAfter around
      have := skipAtom_length_lt (Reading.ofRest_eq_ok_iff.mp skipped)
      exact (shorter after (by omega)).after around
    refine .of_suffix value (start ▸ dropBlanks_suffix cs) fun more => ?_
    exact ofRest_skipWithin around (dropBlanks_append_of_cons start more) list object

theorem persistent_skipAfter (around : List Bracket) :
    Persistent (fun cs => .ofRest (skipAfter around cs)) cs := by
  cases around with
  | nil =>
    refine .of_ok () List.suffix_rfl fun more => ?_
    rw [skipAfter_nil, Reading.ofRest_ok]
  | cons bracket outer =>
    cases start : dropBlanks cs with
    | nil =>
      refine .of_lexical (.inl rfl) ?_
      simp only [skipAfter_step, start, Reading.ofRest_error]
    | cons c rest =>
      have less := length_lt_of_dropBlanks start
      have suffix := suffix_of_dropBlanks start
      have step (more : List Char) := skipAfter_cons bracket outer
        (dropBlanks_append_of_cons start more)
      by_cases comma : c = ','
      · refine .of_suffix ((shorter rest less).contents bracket outer) suffix fun more => ?_
        rw [step, if_pos comma]
      by_cases closer : c = bracket.closer
      · refine .of_suffix ((shorter rest less).after outer) suffix fun more => ?_
        rw [step, if_neg comma, if_pos closer]
      · refine .of_lexical (.inr rfl) ?_
        rw [skipAfter_cons bracket outer start, if_neg comma, if_neg closer, Reading.ofRest_error]

theorem persistent_skipMember (around : List Bracket) :
    Persistent (fun cs => .ofRest (skipMember around cs)) cs := by
  cases start : dropBlanks cs with
  | nil =>
    refine .of_lexical (.inl rfl) ?_
    simp only [skipMember_step, start, Reading.ofRest_error]
  | cons c rest =>
    by_cases quote : c = '"'
    · subst quote
      have member : Persistent (skipMemberAfterQuote around) rest := by
        refine .andThen (persistent_skipString rest) (fun {_ afterKey} key _ => ?_)
          fun _ _ => .of_truncated rfl
        refine .andThen (persistent_readColon afterKey) (fun {_ after} colon _ => ?_)
          fun _ _ => .of_truncated ?_
        · have := length_lt_of_dropBlanks start
          have := skipString_length_lt (Reading.ofRest_eq_ok_iff.mp key)
          have := readColon_length_lt (Reading.ofRest_eq_ok_iff.mp colon)
          exact (shorter after (by omega)).within (.object :: around)
        · rw [skipWithin_step]
          rfl
      exact .of_suffix member (suffix_of_dropBlanks start) fun more =>
        ofRest_skipMember around (dropBlanks_append_of_cons start more)
    · refine .of_lexical (.inr rfl) ?_
      simp only [skipMember_step, start]
      rfl

end

/-- What is passed over stays so when more text follows it. The induction is on the length of
the text, since each of the loops goes on with the others on a shorter one. -/
theorem skipsPersist (cs : List Char) : SkipsPersist cs := by
  induction length : cs.length using Nat.strongRecOn generalizing cs with
  | ind n ih =>
    have shorter : ∀ ds : List Char, ds.length < cs.length → SkipsPersist ds :=
      fun ds less => ih ds.length (length ▸ less) ds rfl
    exact ⟨persistent_skipWithin shorter, persistent_skipMember shorter,
      persistent_skipAfter shorter⟩

theorem persistent_skipValue (cs : List Char) :
    Persistent (fun cs => .ofRest (skipValue cs)) cs :=
  (skipsPersist cs).within []

theorem Field.read_nil (field : Field) : field.read [] = .error .truncated := by
  cases field with
  | required key form => cases form <;> rfl
  | optional key form => cases form <;> rfl

theorem Draft.readMember_nil (draft : Draft []) (key : String) (cs : List Char) :
    draft.readMember key cs = (Reading.ofRest (readColon cs)).andThen fun _ afterColon =>
      (Reading.ofRest (skipValue afterColon)).map fun _ => draft := by
  rw [readMember]
  cases readColon cs with
  | error rejection => rfl
  | ok afterColon =>
    simp only [Reading.ofRest_ok, Reading.andThen_ok]
    cases skipValue afterColon <;> rfl

theorem Draft.readMember_free {field : Field} {fields : List Field} (draft : Draft fields)
    (cs : List Char) :
    @readMember (field :: fields) (none, draft) field.key cs =
      (Reading.ofRest (readColon cs)).andThen fun _ afterColon =>
        (field.read afterColon).map fun value => (some value, draft) := by
  simp only [readMember, if_true]
  cases readColon cs <;> rfl

theorem Draft.persistent_readMember {fields : List Field}
    (narrow : ∀ field ∈ fields, field.form.width ≤ 64) (draft : Draft fields) (key : String)
    (cs : List Char) : Persistent (draft.readMember key) cs := by
  induction fields with
  | nil =>
    have member : Persistent (fun cs => (Reading.ofRest (readColon cs)).andThen fun _ afterColon =>
        (Reading.ofRest (skipValue afterColon)).map fun _ => draft) cs := by
      refine .andThen (persistent_readColon cs) (fun {_ afterColon} _ _ => ?_)
        fun _ _ => .of_truncated ?_
      · exact (persistent_skipValue afterColon).map _
      · rw [skipValue, skipWithin_step]
        rfl
    exact .of_suffix member List.suffix_rfl fun more => draft.readMember_nil key (cs ++ more)
  | cons field fields ih =>
    obtain ⟨slot, draft⟩ := draft
    have others := fun other member => narrow other (List.mem_cons_of_mem field member)
    by_cases same : key = field.key
    · subst same
      cases slot with
      | some value =>
        refine .of_mismatch (.duplicateField field.key) fun more => ?_
        simp only [readMember, if_true]
      | none =>
        have member : Persistent (fun cs => (Reading.ofRest (readColon cs)).andThen
            fun _ afterColon => (field.read afterColon).map fun value => (some value, draft)) cs := by
          refine .andThen (persistent_readColon cs) (fun {_ afterColon} _ _ => ?_)
            fun _ _ => .of_truncated ?_
          · exact (field.persistent_read (narrow field List.mem_cons_self) afterColon).map _
          · rw [field.read_nil, Reading.map_error]
        exact .of_suffix member List.suffix_rfl fun more => draft.readMember_free (cs ++ more)
    · refine .of_suffix ((ih others draft).map fun draft => (slot, draft)) List.suffix_rfl
        fun more => ?_
      simp only [readMember, if_neg same]

/-- After a member, the loop goes on with others on a shorter text or closes. -/
theorem persistent_afterMember {fields : List Field} {draft : Draft fields} {cs : List Char}
    (shorter : ∀ ds : List Char, ds.length < cs.length → Persistent (readMembers draft) ds) :
    Persistent (afterMember draft) cs := by
  cases start : dropBlanks cs with
  | nil =>
    refine .of_lexical (.inl rfl) ?_
    simp only [afterMember, start]
  | cons c rest =>
    have suffix := suffix_of_dropBlanks start
    by_cases comma : c = ','
    · subst comma
      refine .of_suffix (shorter rest (length_lt_of_dropBlanks start)) suffix fun more => ?_
      simp only [afterMember, dropBlanks_append_of_cons start]
    by_cases closer : c = '\x7d'
    · subst closer
      refine .of_ok draft suffix fun more => ?_
      simp only [afterMember, dropBlanks_append_of_cons start]
    · refine .of_lexical (.inr rfl) ?_
      simp only [afterMember, start]

/-- The loop over members keeps what it reads. The induction is on the length of the text, and
the draft varies with each turn. -/
theorem persistent_readMembers {fields : List Field}
    (narrow : ∀ field ∈ fields, field.form.width ≤ 64) (draft : Draft fields) (cs : List Char) :
    Persistent (readMembers draft) cs := by
  induction length : cs.length using Nat.strongRecOn generalizing draft cs with
  | ind n ih =>
    have shorter (extended : Draft fields) (ds : List Char) (less : ds.length < cs.length) :
        Persistent (readMembers extended) ds := ih ds.length (length ▸ less) extended ds rfl
    cases start : dropBlanks cs with
    | nil =>
      refine .of_lexical (.inl rfl) ?_
      simp only [readMembers_step, start]
    | cons c rest =>
      by_cases quote : c = '"'
      · subst quote
        cases name : readString rest with
        | error rejection =>
          refine .of_lexical (lexical_readString rest name) ?_
          rw [readMembers_quote draft start, name, Reading.andThen_error]
        | ok result =>
          obtain ⟨key, afterKey⟩ := result
          have member : Persistent (fun ds => (draft.readMember key ds).andThen afterMember)
              afterKey := by
            refine .andThen (draft.persistent_readMember narrow key afterKey)
              (fun {extended left} read _ => ?_) fun _ _ => .of_truncated rfl
            refine persistent_afterMember fun ds less => shorter extended ds ?_
            have := draft.readMember_leavesBelow _ _ read
            have := readString_leavesBelow _ name
            have := length_lt_of_dropBlanks start
            omega
          refine .of_suffix member ((suffix_of_readString name).trans (suffix_of_dropBlanks start))
            fun more => ?_
          rw [readMembers_quote draft (dropBlanks_append_of_cons start more),
            readString_append name, Reading.andThen_ok]
      · refine .of_lexical (.inr rfl) ?_
        simp only [readMembers_step, start]

theorem persistent_readBody {fields : List Field}
    (narrow : ∀ field ∈ fields, field.form.width ≤ 64) (cs : List Char) :
    Persistent (readBody fields) cs := by
  cases start : dropBlanks cs with
  | nil =>
    refine .of_lexical (.inl rfl) ?_
    simp only [readBody, start, readMembers_step]
  | cons c rest =>
    by_cases closer : c = '\x7d'
    · subst closer
      refine .of_ok (.empty fields) (suffix_of_dropBlanks start) fun more => ?_
      simp only [readBody, dropBlanks_append_of_cons start]
    · refine .of_suffix (persistent_readMembers narrow (.empty fields) cs) List.suffix_rfl
        fun more => ?_
      simp only [readBody, dropBlanks_append_of_cons start]
      split
      · rename_i same
        cases same
        exact (closer rfl).elim
      · rfl

theorem persistent_readObject {fields : List Field}
    (narrow : ∀ field ∈ fields, field.form.width ≤ 64) (cs : List Char) :
    Persistent (readObject fields) cs := by
  refine .andThen (persistent_readBody narrow cs) (fun {draft rest} _ _ => ?_)
    fun {draft} read ends => ?_
  · cases finished : draft.finish with
    | ok values => exact .of_ok values List.suffix_rfl fun _ => rfl
    | error cause => exact .of_mismatch cause fun _ => rfl
  · obtain ⟨body, _, _, rfl⟩ := exists_body_of_readBody read
    exact (not_endsOpen_concat (.inr rfl) ends).elim

theorem idle_readElements (record : String) (size : Nat) (fields : List Field) (index : Nat)
    (first : Bool) : Idle (readElements record size fields index first) := by
  cases fields with
  | nil => exact .of_ok rfl
  | cons field fields => exact .of_truncated rfl

theorem persistent_readElements {fields : List Field}
    (narrow : ∀ field ∈ fields, field.form.width ≤ 64) (record : String) (size index : Nat)
    (first : Bool) (cs : List Char) :
    Persistent (readElements record size fields index first) cs := by
  induction fields generalizing index first cs with
  | nil => exact .of_ok () List.suffix_rfl fun _ => rfl
  | cons field fields ih =>
    have others := fun other member => narrow other (List.mem_cons_of_mem field member)
    have element (ds : List Char) : Persistent (fun ds => (field.read ds).andThen fun value rest =>
        (readElements record size fields (index + 1) false rest).map fun values =>
          (value, values)) ds := by
      refine .andThen (field.persistent_read (narrow field List.mem_cons_self) ds)
        (fun {value rest} _ _ => ?_) fun {value} _ _ => ?_
      · exact (ih others (index + 1) false rest).map _
      · exact (idle_readElements record size fields (index + 1) false).map _
    cases start : dropBlanks cs with
    | nil =>
      refine .of_lexical (.inl rfl) ?_
      simp only [readElements, nextElement, start]
    | cons c rest =>
      by_cases closer : c = ']'
      · subst closer
        have next (more : List Char) : nextElement first (cs ++ more) = .ok none :=
          nextElement_closer (dropBlanks_append_of_cons start more)
        cases absent : field.absent? with
        | some value =>
          refine .of_suffix ((ih others (index + 1) first cs).map fun values => (value, values))
            List.suffix_rfl fun more => ?_
          simp only [readElements, next, absent]
        | none =>
          refine .of_mismatch (.invalidLength index record size) fun more => ?_
          simp only [readElements, next, absent]
      cases first with
      | true =>
        refine .of_suffix (element (c :: rest)) (start ▸ dropBlanks_suffix cs)
          fun more => ?_
        simp only [readElements,
          nextElement_first (dropBlanks_append_of_cons start more) closer, List.cons_append]
      | false =>
        by_cases comma : c = ','
        · subst comma
          refine .of_suffix (element rest) (suffix_of_dropBlanks start) fun more => ?_
          simp only [readElements, nextElement_comma (dropBlanks_append_of_cons start more)]
        · refine .of_lexical (.inr rfl) ?_
          simp [readElements, nextElement, start, comma]

theorem persistent_readList {fields : List Field}
    (narrow : ∀ field ∈ fields, field.form.width ≤ 64) (record : String) (cs : List Char) :
    Persistent (readList record fields) cs := by
  refine .andThen (persistent_readElements narrow record fields.length 0 true cs)
    (fun {values rest} _ _ => ?_) fun _ _ => .of_truncated rfl
  cases start : dropBlanks rest with
  | nil =>
    refine .of_lexical (.inl rfl) ?_
    simp only [start]
  | cons c left =>
    by_cases closer : c = ']'
    · subst closer
      refine .of_ok values (suffix_of_dropBlanks start) fun more => ?_
      simp only [dropBlanks_append_of_cons start]
    · refine .of_lexical (.inr rfl) ?_
      simp only [start]

/-- Elements are read up to a closing bracket. -/
theorem closer_of_readList {fields : List Field}
    (narrow : ∀ field ∈ fields, field.form.width ≤ 64) {record : String} {cs rest : List Char}
    {values : Tuple fields} (read : readList record fields cs = .ok (values, rest)) :
    ∃ body, cs = body ++ ']' :: rest := by
  obtain ⟨closing, elements, closes⟩ := readList_eq_ok_iff.mp read
  have suffix := ((persistent_readElements narrow _ _ _ _ cs).ok elements).1
  obtain ⟨body, split⟩ := (closes ▸ dropBlanks_suffix closing).trans suffix
  exact ⟨body, split.symm⟩

/-- The front of a text that holds one record: all before the closing bracket of the record, which
only blanks follow. -/
def IsFront (front text : List Char) : Prop :=
  ∃ (bracket : Bracket) (before body after : List Char), IsBlanks before ∧ IsBlanks after ∧
    front = before ++ bracket.opener :: body ∧ text = front ++ bracket.closer :: after

theorem Bracket.not_isBlanks_closer (bracket : Bracket) (rest : List Char) :
    ¬ IsBlanks (bracket.closer :: rest) := by
  intro blank
  have first := blank bracket.closer List.mem_cons_self
  cases bracket <;> revert first <;> decide

/-- A cut of the front misses more than blanks. -/
theorem IsFront.exists_more {front text cut : List Char} (isFront : IsFront front text)
    (isCut : cut <+: front) : ∃ more, text = cut ++ more ∧ ¬ IsBlanks more := by
  obtain ⟨bracket, before, body, after, _, _, _, rfl⟩ := isFront
  obtain ⟨missed, rfl⟩ := isCut
  refine ⟨missed ++ bracket.closer :: after, List.append_assoc _ _ _, fun blank => ?_⟩
  exact bracket.not_isBlanks_closer after fun c member =>
    blank c (List.mem_append_right missed member)

section

variable {α : Type} {shape : Shape α}

theorem Shape.persistent_readValues (narrow : ∀ field ∈ shape.fields, field.form.width ≤ 64)
    (cs : List Char) : Persistent shape.readValues cs := by
  cases start : dropBlanks cs with
  | nil =>
    refine .of_lexical (.inl rfl) ?_
    simp only [readValues, start]
    rfl
  | cons c rest =>
    have suffix := suffix_of_dropBlanks start
    by_cases object : c = '\x7b'
    · subst object
      exact .of_suffix (persistent_readObject narrow rest) suffix fun more =>
        readValues_object (dropBlanks_append_of_cons start more)
    by_cases list : c = '['
    · subst list
      exact .of_suffix (persistent_readList narrow shape.describe rest) suffix fun more =>
        readValues_list (dropBlanks_append_of_cons start more)
    · refine .of_suffix (persistent_rejectValue shape.describe (c :: rest))
        (start ▸ dropBlanks_suffix cs) fun more => ?_
      simp [readValues, dropBlanks_append_of_cons start, object, list]

/-- The values of a record stand between an opening bracket and its closing one. -/
theorem Shape.exists_frame (narrow : ∀ field ∈ shape.fields, field.form.width ≤ 64)
    {cs rest : List Char} {values : Tuple shape.fields}
    (read : shape.readValues cs = .ok (values, rest)) :
    ∃ (bracket : Bracket) (before body : List Char), IsBlanks before ∧
      cs = before ++ bracket.opener :: (body ++ bracket.closer :: rest) := by
  obtain ⟨before, blank, whole⟩ := exists_blanks cs
  unfold readValues at read
  split at read
  · rename_i inner start
    obtain ⟨body, _, _, rfl⟩ := exists_body_of_readObject read
    exact ⟨.object, before, body, blank, start ▸ whole⟩
  · rename_i inner start
    obtain ⟨body, rfl⟩ := closer_of_readList narrow read
    exact ⟨.list, before, body, blank, start ▸ whole⟩
  · cases read

theorem Shape.not_endsOpen (narrow : ∀ field ∈ shape.fields, field.form.width ≤ 64)
    {cs : List Char} {values : Tuple shape.fields}
    (read : shape.readValues cs = .ok (values, [])) : ¬ EndsOpen cs := by
  obtain ⟨bracket, before, body, _, split⟩ := exists_frame narrow read
  have closed : cs = (before ++ bracket.opener :: body) ++ [bracket.closer] := by
    rw [split, List.append_assoc, List.cons_append]
  rw [closed]
  cases bracket with
  | list => exact not_endsOpen_concat (.inl rfl)
  | object => exact not_endsOpen_concat (.inr rfl)

theorem Shape.persistent_readRecord (narrow : ∀ field ∈ shape.fields, field.form.width ≤ 64)
    (cs : List Char) : Persistent shape.readRecord cs := by
  refine .andThen (persistent_readValues narrow cs) (fun {values rest} _ _ => ?_)
    fun {values} read ends => (not_endsOpen narrow read ends).elim
  cases made : shape.ofTuple values with
  | ok record => exact .of_ok record List.suffix_rfl fun _ => rfl
  | error fault => exact .of_mismatch (.refused fault) fun _ => rfl

theorem Shape.readRecord_append (narrow : ∀ field ∈ shape.fields, field.form.width ≤ 64)
    {cs rest : List Char} {record : α} (read : shape.readRecord cs = .ok (record, rest))
    (more : List Char) : shape.readRecord (cs ++ more) = .ok (record, rest ++ more) := by
  refine (persistent_readRecord narrow cs).ok_of_closed read (fun nothing => ?_) more
  subst nothing
  obtain ⟨values, readValues, _⟩ := readRecord_eq_ok_iff.mp read
  exact not_endsOpen narrow readValues

theorem Shape.exists_front (narrow : ∀ field ∈ shape.fields, field.form.width ≤ 64)
    {text : List Char} {record : α} (read : shape.read text = .ok record) :
    ∃ front, IsFront front text := by
  obtain ⟨values, after, readValues, _, blankAfter⟩ := read_iff_values.mp read
  obtain ⟨bracket, before, body, blankBefore, split⟩ := exists_frame narrow readValues
  refine ⟨before ++ bracket.opener :: body, bracket, before, body, after, blankBefore, blankAfter,
    rfl, ?_⟩
  rw [split, List.append_assoc, List.cons_append]

/-- After a record there may be blanks and nothing else. -/
theorem Shape.read_append (narrow : ∀ field ∈ shape.fields, field.form.width ≤ 64)
    {text : List Char} {record : α} (read : shape.read text = .ok record) (more : List Char) :
    shape.read (text ++ more) = if IsBlanks more then .ok record else .error .malformed := by
  obtain ⟨after, read, blankAfter⟩ := read_iff_record.mp read
  rw [Shape.read, readRecord_append narrow read]
  simp only [dropBlanks_append blankAfter]
  by_cases blank : IsBlanks more
  · rw [if_pos blank, dropBlanks_eq_nil_iff.mpr blank]
  · rw [if_neg blank]
    obtain ⟨c, rest, start⟩ := List.exists_cons_of_ne_nil (mt dropBlanks_eq_nil_iff.mp blank)
    rw [start]

/-- A text that is cut off before the end of its record is rejected for that, and not for what
it holds. -/
theorem Shape.read_of_cut (narrow : ∀ field ∈ shape.fields, field.form.width ≤ 64)
    {text front cut : List Char} {record : α} (read : shape.read text = .ok record)
    (isFront : IsFront front text) (isCut : cut <+: front) :
    shape.read cut = .error .truncated ∨ shape.read cut = .error .malformed := by
  obtain ⟨after, whole, blank⟩ := read_iff_record.mp read
  obtain ⟨more, rfl, closed⟩ := isFront.exists_more isCut
  cases found : shape.readRecord cut with
  | ok result =>
    obtain ⟨record', rest⟩ := result
    cases (readRecord_append narrow found more).symm.trans whole
    exact (closed fun c member => blank c (List.mem_append_right rest member)).elim
  | error rejection =>
    rw [Shape.read, found]
    cases rejection with
    | truncated => exact .inl rfl
    | malformed => exact .inr rfl
    | mismatch cause =>
      -- More text may change the mismatch, but not into a record, which the whole text holds.
      rcases (persistent_readRecord narrow cut).mismatch found with persists | ⟨_, never⟩
      · cases (persists more).symm.trans whole
      · exact (never more _ whole).elim

/-- What is wrong with the values of a text that ends with a bracket does not depend on what
follows it. -/
theorem Shape.read_mismatch_append (narrow : ∀ field ∈ shape.fields, field.form.width ≤ 64)
    {text : List Char} {cause : Mismatch} (closed : ¬ EndsOpen text)
    (rejected : shape.read text = .error (.mismatch cause)) (more : List Char) :
    shape.read (text ++ more) = .error (.mismatch cause) := by
  have found : shape.readRecord text = .error (.mismatch cause) := by
    rw [Shape.read] at rejected
    split at rejected
    · cases rejected
      assumption
    · split at rejected <;> cases rejected
  rw [Shape.read, (persistent_readRecord narrow text).mismatch_of_closed found closed more]

end

end WorkerSettings.Json
