import WorkerSettings.Proofs.EnvFile.Lines
import WorkerSettings.Proofs.EnvFile.Loading
import WorkerSettings.Proofs.Layers.Resolution

/-!
# Environment files of quoted values

A value between single quotes stands for itself, whatever it is, if it holds neither a single
quote nor a backslash: a line feed does not end it, `#` starts no comment in it and `$` no
reference. The lines are put together before values are read, so quotes are followed twice, once
to find where a line ends and once to find where the value does. Loading a file of such lines is
putting a map of their values over the environment.
-/

namespace WorkerSettings

namespace EnvFile

/-- The text is a name: a letter or an underscore, and then letters, digits, underscores and
full stops. -/
def IsName (name : String) : Prop :=
  ∃ c rest, name.toList = c :: rest ∧ Assignment.isNameStart c = true ∧
    ∀ d ∈ rest, Assignment.isNameRest d = true

instance (name : String) : Decidable (IsName name) :=
  decidable_of_iff
    (name.toList.head?.any Assignment.isNameStart = true ∧
      name.toList.tail.all Assignment.isNameRest = true) <| by
    rw [IsName]
    cases name.toList <;> simp

structure IsQuotable (value : String) : Prop where
  quote : '\'' ∉ value.toList
  backslash : '\\' ∉ value.toList
  zero : '\x00' ∉ value.toList

instance (value : String) : Decidable (IsQuotable value) :=
  decidable_of_iff
    ('\'' ∉ value.toList ∧ '\\' ∉ value.toList ∧ '\x00' ∉ value.toList)
    ⟨fun ⟨quote, backslash, zero⟩ => ⟨quote, backslash, zero⟩,
      fun ⟨quote, backslash, zero⟩ => ⟨quote, backslash, zero⟩⟩

def quotedLine (name value : String) : String :=
  name ++ "='" ++ value ++ "'\n"

def quotedFile (pairs : List (String × String)) : String :=
  String.join (pairs.map fun pair => quotedLine pair.1 pair.2)

/-- What stays in single quotes. -/
theorem scanLine_single {c : Char} (quote : c ≠ '\'') (backslash : c ≠ '\\') :
    scanLine .single [c] = .quoting .single := by
  simp [scanLine, Quoting.next?, quote, backslash]

/-- A quote is open after `head`, and the rest of the value, its closing quote and a line feed
come next. Then the logical line goes on to the closing quote, over all line feeds before it. -/
theorem logicalLines_quoted {quoting : Quoting} {gathered head value : List Char}
    (oneLine : '\n' ∉ head) (opens : Opens (gathered ++ head))
    (opened : scanLine quoting head = .quoting .single)
    (quote : '\'' ∉ value) (backslash : '\\' ∉ value) (rest : List Char) :
    logicalLines quoting gathered
        (physicalLines (encode (head ++ (value ++ '\'' :: '\n' :: rest)))) =
      ((gathered ++ head ++ value ++ ['\'']) ::
          (logicalLines .plain [] (physicalLines (encode rest))).1,
        (logicalLines .plain [] (physicalLines (encode rest))).2) := by
  -- What is read of the value goes to `head`, and all of `head` to `gathered` at a line feed.
  induction value generalizing quoting gathered head with
  | nil =>
    have split : head ++ ([] ++ '\'' :: '\n' :: rest) = (head ++ ['\'']) ++ '\n' :: rest := by simp
    have oneLine' : '\n' ∉ head ++ ['\''] := by simp [oneLine]
    have closed : scanLine quoting (head ++ ['\''] ++ ['\n']) = .quoting .plain := by
      rw [List.append_assoc]
      exact scanLine_append opened rfl
    have broken : gathered ++ (head ++ ['\'']) ++ ['\n'] = gathered ++ head ++ ['\'', '\n'] := by
      simp
    rw [split, logicalLines_finish oneLine' (opens.extend _) closed, broken,
      dropLineBreak_concat (by decide), List.append_nil]
  | cons c value ih =>
    rw [List.mem_cons, not_or] at quote backslash
    have stays : scanLine quoting (head ++ [c]) = .quoting .single :=
      scanLine_append opened (scanLine_single (Ne.symm quote.1) (Ne.symm backslash.1))
    by_cases feed : c = '\n'
    · subst feed
      have gatheredOpens : Opens (gathered ++ head ++ ['\n'] ++ []) := by
        rw [List.append_nil]
        exact opens.append _
      rw [List.cons_append, logicalLines_gather oneLine opens stays (by decide)]
      refine (ih List.not_mem_nil gatheredOpens rfl quote.2 backslash.2).trans ?_
      simp
    · have split : head ++ (c :: value ++ '\'' :: '\n' :: rest) =
          (head ++ [c]) ++ (value ++ '\'' :: '\n' :: rest) := by simp
      have oneLine' : '\n' ∉ head ++ [c] := by simp [oneLine, Ne.symm feed]
      rw [split, ih oneLine' (opens.extend [c]) stays quote.2 backslash.2]
      simp

/-- The logical line of a quoted value. -/
def quotedText (name value : String) : List Char :=
  name.toList ++ '=' :: '\'' :: (value.toList ++ ['\''])

theorem isNameRest_of_isNameStart {c : Char} (start : Assignment.isNameStart c = true) :
    Assignment.isNameRest c = true := by
  simp only [Assignment.isNameStart, Assignment.isNameRest, Char.isAlphanum, Bool.or_eq_true]
    at start ⊢
  rcases start with letter | score
  · exact .inl (.inl (.inl letter))
  · exact .inl (.inr score)

theorem IsName.rest {name : String} (isName : IsName name) {c : Char} (member : c ∈ name.toList) :
    Assignment.isNameRest c = true := by
  obtain ⟨first, rest, split, start, others⟩ := isName
  rw [split] at member
  rcases List.mem_cons.mp member with rfl | member
  · exact isNameRest_of_isNameStart start
  · exact others c member

theorem toNat_of_isAlpha {c : Char} (letter : c.isAlpha = true) :
    65 ≤ c.toNat ∧ c.toNat ≤ 122 := by
  rcases Bool.or_eq_true_iff.mp letter with upper | lower
  · obtain ⟨low, high⟩ := of_decide_eq_true upper
    have least : 65 ≤ c.toNat := UInt32.le_iff_toNat_le.mp low
    have greatest : c.toNat ≤ 90 := UInt32.le_iff_toNat_le.mp high
    omega
  · obtain ⟨low, high⟩ := Bool.and_eq_true_iff.mp lower
    have least : 97 ≤ c.toNat := UInt32.le_iff_toNat_le.mp (of_decide_eq_true low)
    have greatest : c.toNat ≤ 122 := UInt32.le_iff_toNat_le.mp (of_decide_eq_true high)
    omega

/-- A character of a name is visible in ASCII. -/
theorem toNat_of_isNameRest {c : Char} (inName : Assignment.isNameRest c = true) :
    0x20 < c.toNat ∧ c.toNat < 0x7F := by
  simp only [Assignment.isNameRest, Bool.or_eq_true, beq_iff_eq, Char.isAlphanum] at inName
  rcases inName with ((letter | digit) | rfl) | rfl
  · have bounds := toNat_of_isAlpha letter
    omega
  · have bounds : 48 ≤ c.toNat ∧ c.toNat ≤ 57 := by
      simpa [Char.isDigit, UInt32.le_iff_toNat_le] using digit
    omega
  · decide
  · decide

theorem IsName.opens {name : String} (isName : IsName name) : Opens name.toList := by
  obtain ⟨first, others, split, start, _⟩ := id isName
  obtain ⟨visible, ascii⟩ := toNat_of_isNameRest (isNameRest_of_isNameStart start)
  refine ⟨first, others, split, Text.isBlank_eq_false visible ascii, ?_⟩
  rintro rfl
  cases start

theorem next?_of_isNameRest {c : Char} (inName : Assignment.isNameRest c = true) :
    Quoting.plain.next? c = some .plain := by
  obtain ⟨visible, ascii⟩ := toNat_of_isNameRest inName
  have plain : Quoting.unquoted c = .plain := by
    rw [Quoting.unquoted, if_neg, if_neg, if_neg]
    all_goals
      rintro rfl
      cases inName
  simp [Quoting.next?, Text.isBlank_eq_false visible ascii, plain]

theorem scanLine_name {cs : List Char} (inName : ∀ c ∈ cs, Assignment.isNameRest c = true) :
    scanLine .plain cs = .quoting .plain := by
  induction cs with
  | nil => rfl
  | cons c cs ih =>
    rw [List.forall_mem_cons] at inName
    have scanned := ih inName.2
    simp only [scanLine, next?_of_isNameRest inName.1, scanned]

theorem quotedFile_cons (pair : String × String) (pairs : List (String × String)) :
    (quotedFile (pair :: pairs)).toList = (pair.1.toList ++ ['=', '\'']) ++
      (pair.2.toList ++ '\'' :: '\n' :: (quotedFile pairs).toList) := by
  simp [quotedFile, quotedLine]

def AreQuotable (pairs : List (String × String)) : Prop :=
  ∀ pair ∈ pairs, IsName pair.1 ∧ IsQuotable pair.2

/-- The logical lines of the file are its pairs, one by one. -/
theorem logicalLines_quotedFile {pairs : List (String × String)} (quotable : AreQuotable pairs) :
    logicalLines .plain [] (physicalLines (encode (quotedFile pairs).toList)) =
      (pairs.map fun pair => quotedText pair.1 pair.2, .complete) := by
  induction pairs with
  | nil => rfl
  | cons pair pairs ih =>
    obtain ⟨⟨isName, isQuotable⟩, others⟩ := List.forall_mem_cons.mp quotable
    have oneLine : '\n' ∉ pair.1.toList ++ ['=', '\''] := by
      intro member
      rcases List.mem_append.mp member with inName | inOpening
      · cases isName.rest inName
      · simp at inOpening
    have opened : scanLine .plain (pair.1.toList ++ ['=', '\'']) = .quoting .single :=
      scanLine_append (scanLine_name fun c => isName.rest) rfl
    have opens : Opens ([] ++ (pair.1.toList ++ ['=', '\''])) := isName.opens.append _
    rw [quotedFile_cons, logicalLines_quoted oneLine opens opened isQuotable.quote
      isQuotable.backslash, ih others]
    simp [quotedText]

namespace Template

/-- Up to its closing quote a value in single quotes is read as it stands. -/
theorem read_single {value : List Char} (quote : '\'' ∉ value) (index : Nat) :
    read .single index (value ++ ['\'']) = .ok (value.map .literal) := by
  induction value generalizing index with
  | nil => rfl
  | cons c value ih =>
    rw [List.mem_cons, not_or] at quote
    have stays : Mode.single.step c = .go [.literal c] .single := if_neg (Ne.symm quote.1)
    rw [List.cons_append, read, stays]
    simp only [ih quote.2, Except.map]
    rfl

theorem parse_quoted {value : List Char} (quote : '\'' ∉ value) :
    parse ('\'' :: (value ++ ['\''])) = .ok (value.map .literal) := by
  have opened : read .plain 0 ('\'' :: (value ++ ['\''])) = .ok (value.map .literal) := by
    have opens : Mode.plain.step '\'' = .go [] .single := rfl
    rw [read, opens]
    simp only [read_single quote, Except.map]
    rfl
  rw [parse, opened]

theorem expand_literals (text? : String → Option String) (value : List Char) :
    expand text? (value.map .literal) = String.ofList value := by
  rw [expand, List.flatMap_map]
  congr 1
  exact List.flatMap_singleton' value

end Template

theorem IsName.readTarget_eq {name : String} (isName : IsName name) (rest : List Char) :
    Assignment.readTarget (name.toList ++ '=' :: rest) = .ok (name.toList, rest) := by
  obtain ⟨first, others, split, start, inName⟩ := isName
  have read : Assignment.readName (name.toList ++ '=' :: rest) =
      .ok (name.toList, '=' :: rest) := by
    rw [split, List.cons_append, Assignment.readName, if_pos start,
      List.takeWhile_append_of_pos inName, List.dropWhile_append_of_pos inName]
    simp [Assignment.isNameRest]
  have equals : Assignment.readEquals ('=' :: rest) = .ok rest := by
    rw [Assignment.readEquals, Text.trimStart_cons (by decide)]
    rfl
  simp only [Assignment.readTarget, read, bind, Except.bind, equals]
  rfl

/-- A line of a quoted value assigns the value as it stands. -/
theorem ofLine_quotedText {name value : String} (isName : IsName name)
    (isQuotable : IsQuotable value) :
    Assignment.ofLine (quotedText name value) =
      .ok (some ⟨name, value.toList.map .literal⟩) := by
  have last : Text.trimEnd (quotedText name value) = quotedText name value := by
    have split : quotedText name value =
        (name.toList ++ '=' :: '\'' :: value.toList) ++ ['\''] := by simp [quotedText]
    rw [split, Text.trimEnd_concat (by decide)]
  have opens : Opens (quotedText name value) := isName.opens.append _
  have opensValue : Opens ('\'' :: (value.toList ++ ['\''])) :=
    ⟨'\'', _, rfl, by decide, by decide⟩
  have target : Assignment.readTarget (quotedText name value) =
      .ok (name.toList, '\'' :: (value.toList ++ ['\''])) := isName.readTarget_eq _
  simp only [Assignment.ofLine, last, opens.trimStart_eq, opens.isVoid_eq, target,
    opensValue.trimStart_eq, opensValue.isVoid_eq, Template.parse_quoted isQuotable.quote,
    String.ofList_toList, Bool.false_eq_true, if_false]

/-- The lines of quoted values yield their pairs. -/
theorem run_quoted {pairs : List (String × String)} (quotable : AreQuotable pairs)
    (progress : Progress) :
    (progress.run .complete (pairs.map fun pair => quotedText pair.1 pair.2)).1.assigned =
        progress.assigned ++ pairs ∧
      (progress.run .complete (pairs.map fun pair => quotedText pair.1 pair.2)).2 = .complete := by
  induction pairs generalizing progress with
  | nil => simp [Progress.run]
  | cons pair pairs ih =>
    obtain ⟨⟨isName, isQuotable⟩, others⟩ := List.forall_mem_cons.mp quotable
    obtain ⟨assigned, ending⟩ :=
      ih others (progress.take ⟨pair.1, pair.2.toList.map .literal⟩)
    rw [List.map_cons, Progress.run, ofLine_quotedText isName isQuotable]
    refine ⟨assigned.trans ?_, ending⟩
    simp [Progress.take, Template.expand_literals]

/-- A name does not begin with a byte order mark. -/
theorem dropMark_quotedFile {pairs : List (String × String)} (quotable : AreQuotable pairs) :
    Document.dropMark (quotedFile pairs).toUTF8.data.toList = encode (quotedFile pairs).toList := by
  rw [← encode_toList]
  cases pairs with
  | nil => rfl
  | cons pair pairs =>
    obtain ⟨⟨first, others, split, start, _⟩, _⟩ := quotable pair List.mem_cons_self
    obtain ⟨_, ascii⟩ := toNat_of_isNameRest (isNameRest_of_isNameStart start)
    rw [quotedFile_cons, split, List.cons_append, List.cons_append, encode, List.flatMap_cons,
      utf8EncodeChar_ascii (by omega), List.singleton_append, Document.dropMark]
    intro rest same
    have code : UInt8.ofNat first.toNat = 0xEF := (List.cons.inj same).1
    rw [← UInt8.toNat_inj, UInt8.toNat_ofNat'] at code
    have impossible : first.toNat % 256 = 239 := code
    omega

theorem ofFile_quotedFile (env : Environment) {pairs : List (String × String)}
    (quotable : AreQuotable pairs) :
    (Progress.ofFile env (quotedFile pairs).toUTF8).1.assigned = pairs ∧
      (Progress.ofFile env (quotedFile pairs).toUTF8).2 = .complete := by
  obtain ⟨assigned, ending⟩ := run_quoted quotable { environment := env, assigned := [] }
  simp only [Progress.ofFile, dropMark_quotedFile quotable, logicalLines_quotedFile quotable]
  exact ⟨assigned, ending⟩

end EnvFile

/-- The variables of an environment that have a text, as a map. -/
def Environment.texts (env : Environment) : Std.HashMap String String :=
  env.entries.foldr (fun entry map =>
    match String.fromUTF8? entry.2 with
    | some text => map.insert entry.1 text
    | none => map.erase entry.1) ∅

/-- A map with the first value of each name put over what it has. -/
def withFirst (map : Std.HashMap String String) (pairs : List (String × String)) :
    Std.HashMap String String :=
  pairs.foldr (fun pair map => map.insert pair.1 pair.2) map

theorem Environment.getElem?_texts (env : Environment) (name : String) :
    env.texts[name]? = (env.value? name).bind String.fromUTF8? := by
  obtain ⟨entries⟩ := env
  simp only [texts, value?]
  induction entries with
  | nil => simp
  | cons entry entries ih =>
    obtain ⟨key, value⟩ := entry
    rw [List.foldr_cons, List.lookup_cons]
    by_cases same : name = key
    · subst same
      cases read : String.fromUTF8? value <;> simp [read]
    · have differs : (name == key) = false := by simp [same]
      rw [differs, ← ih]
      cases read : String.fromUTF8? value <;>
        simp [Std.HashMap.getElem?_insert, Std.HashMap.getElem?_erase, Ne.symm same]

theorem getElem?_withFirst (map : Std.HashMap String String) (pairs : List (String × String))
    (name : String) : (withFirst map pairs)[name]? = (pairs.lookup name).or map[name]? := by
  induction pairs with
  | nil => simp [withFirst]
  | cons pair pairs ih =>
    obtain ⟨key, value⟩ := pair
    rw [List.lookup_cons, withFirst, List.foldr_cons, Std.HashMap.getElem?_insert]
    by_cases same : name = key
    · simp [same]
    · have differs : (name == key) = false := by simp [same]
      rw [differs, ← ih]
      simp [Ne.symm same, withFirst]

namespace Layers

/-- Loading a file of quoted values from the working directory, where none of its names is set,
succeeds and gives each name its first value, whatever that is. Settings from the environment
then are the settings from a map that has the first values over the texts of before. -/
theorem loadEnvFile_quoted (layers : Layers) (env : Environment) (tree : FileTree)
    (directory : Path) (pairs : List (String × String))
    (quotable : ∀ pair ∈ pairs, EnvFile.IsName pair.1 ∧ EnvFile.IsQuotable pair.2)
    (unset : ∀ pair ∈ pairs, env.text? pair.1 = none)
    (enabled : env.text? Variables.envFileDisabled ≠ some "true" ∧
      env.text? Variables.envFileDisabled ≠ some "1")
    (here : tree.directory = some directory)
    (file : tree.envFileIn? directory = .ok (some (EnvFile.quotedFile pairs).toUTF8)) :
    let result := layers.loadEnvFile env tree.envFile?
    result.1 = .ok layers ∧
    (∀ name value, pairs.lookup name = some value →
      result.2.value? name = some value.toUTF8 ∧ result.2.text? name = some value) ∧
    ∀ identity, Settings.resolve identity result.2 =
      Settings.resolve identity (withFirst env.texts pairs) := by
  have isEnabled := EnvFile.isDisabled_eq_false_iff.mpr enabled
  have plain : ∀ pair ∈ pairs, '=' ∉ pair.1.toList := fun pair member inName => by
    cases (quotable pair member).1.rest inName
  have fresh : ∀ pair ∈ pairs, ¬ env.HasText pair.1 := fun pair member => by
    rw [Environment.hasText_iff (plain pair member), unset pair member]
    decide
  obtain ⟨assigned, ending⟩ := EnvFile.ofFile_quotedFile env quotable
  have wins := EnvFile.Progress.firstWins_ofFile env (EnvFile.quotedFile pairs).toUTF8
  rw [assigned] at wins
  rw [FileTree.envFile?_eq_some_iff.mpr (FileTree.nearestEnvFile_here here file),
    layers.loadEnvFile_some isEnabled, ending]
  refine ⟨rfl, fun name value found => ?_, fun identity => ?_⟩
  · have member := mem_of_lookup found
    have text := wins.text?_eq fresh (plain _ member)
    rw [found, Option.some_or] at text
    exact ⟨wins.first name value (fresh _ member) found, text⟩
  · refine Settings.resolve_congr identity fun name member => ?_
    have plainName := Variables.plain_of_mem_all member
    have text := wins.text?_eq fresh plainName
    rw [Environment.text?_eq env plainName, ← Environment.getElem?_texts,
      ← getElem?_withFirst] at text
    exact congrArg (Option.getD · "") text

/-- Values that look like comments, references and the ends of lines. -/
def manyLines : List (String × String) :=
  [(Variables.outputQueue, "\n# $\x7bB\x7d=\" \r\n"), (Variables.threads, " +7\n"), ("B", ""),
    (Variables.outputQueue, "late"), ("_.9", "é\n")]

def treeOfLines : FileTree :=
  FileTree.empty.write [".env"] (EnvFile.quotedFile manyLines).toUTF8

theorem loadEnvFile_quoted_lines :
    let result := bareLayers.loadEnvFile mixedEnvironment treeOfLines.envFile?
    result.1 = .ok bareLayers ∧
      result.2.value? Variables.outputQueue = some "\n# $\x7bB\x7d=\" \r\n".toUTF8 ∧
      result.2.text? "B" = some "" ∧ result.2.text? "_.9" = some "é\n" ∧
      Settings.resolve bareLayers.identity (withFirst mixedEnvironment.texts manyLines) =
        .ok { workerName := "w", workerVersion := "1", outputQueue := "\n# $\x7bB\x7d=\" \r\n",
              failureQueue := none, threads := 7, maxBatchSize := none, maxBatchTime := none } := by
  have quotable : ∀ pair ∈ manyLines, EnvFile.IsName pair.1 ∧ EnvFile.IsQuotable pair.2 := by
    decide +kernel
  obtain ⟨verdict, values, resolved⟩ := loadEnvFile_quoted bareLayers mixedEnvironment treeOfLines
    [] manyLines quotable (by decide +kernel) (by decide +kernel) rfl rfl
  refine ⟨verdict, (values _ _ rfl).1, (values _ _ rfl).2, (values _ _ rfl).2, ?_⟩
  rw [← resolved]
  decide +kernel

end Layers

end WorkerSettings
