import Catena.EnvFile
import Catena.InstallerRun

/-!
# What comes back from an inventory's `.env`

Both readers take the lines of an emitted file apart in the same way, so what
they give back is decided value by value: a value comes back as it was meant
exactly when it is `Stable`, and the file is written again unchanged exactly
when every value in it is.
-/

namespace Catena.EnvFile

open PyText

/-! ### One value -/

theorem rendered_special {value : Line} (special : value.any isSpecial = true) :
    rendered value = '"' :: (escaped value ++ ['"']) :=
  if_pos special

theorem rendered_plain {value : Line} (plain : value.any isSpecial = false) :
    rendered value = value :=
  if_neg (by simp [plain])

/-- A replacement by two characters makes a text longer unless it changes
nothing. -/
theorem replaceChar_length {old : Char} {new : Line} (twice : new.length = 2) (text : Line) :
    (replaceChar old new text).length = text.length + text.count old := by
  induction text with
  | nil => rfl
  | cons first rest ih =>
      rw [replaceChar] at ih ⊢
      rw [List.flatMap_cons, List.length_append, ih, List.count_cons]
      by_cases same : first = old
      · simp [same, twice]
        omega
      · simp [same]
        omega

theorem replaceChar_absent {old : Char} {new text : Line} (absent : old ∉ text) :
    replaceChar old new text = text := by
  induction text with
  | nil => rfl
  | cons first rest ih =>
      obtain ⟨other, later⟩ := List.ne_and_not_mem_of_not_mem_cons absent
      rw [replaceChar] at ih ⊢
      rw [List.flatMap_cons, ih later, if_neg (Ne.symm other)]
      rfl

/-- Escaping leaves a text without quotes and backslashes, and makes any other
longer. -/
theorem escaped_eq_iff (value : Line) :
    escaped value = value ↔ '"' ∉ value ∧ '\\' ∉ value := by
  constructor
  · intro same
    have lengths := congrArg List.length same
    rw [escaped, replaceChar_length rfl, replaceChar_length rfl] at lengths
    have noBackslash : '\\' ∉ value := by
      rw [← List.count_eq_zero]
      omega
    rw [replaceChar_absent noBackslash] at lengths
    have noQuote : '"' ∉ value := by
      rw [← List.count_eq_zero]
      omega
    exact ⟨noQuote, noBackslash⟩
  · rintro ⟨noQuote, noBackslash⟩
    rw [escaped, replaceChar_absent noBackslash, replaceChar_absent noQuote]

theorem mem_replaceChar {old character : Char} {new text : Line} (kept : old ∈ new)
    (found : character ∈ text) : character ∈ replaceChar old new text := by
  rw [replaceChar, List.mem_flatMap]
  refine ⟨character, found, ?_⟩
  by_cases same : character = old
  · rwa [if_pos same, same]
  · rw [if_neg same]
    exact List.mem_singleton_self character

theorem mem_escaped {value : Line} {character : Char} (found : character ∈ value) :
    character ∈ escaped value :=
  mem_replaceChar (by simp) (mem_replaceChar (by simp) found)

theorem special_escaped {value : Line} (special : value.any isSpecial = true) :
    (escaped value).any isSpecial = true := by
  obtain ⟨character, found, isOne⟩ := List.any_eq_true.mp special
  exact List.any_eq_true.mpr ⟨character, mem_escaped found, isOne⟩

/-- What a reader makes of a rendered value. -/
def reread (value : String) : String :=
  String.ofList (unquoted (rendered value.toList))

theorem unquoted_congr {first second : Line}
    (same : stripChars isSpace first = stripChars isSpace second) :
    unquoted first = unquoted second := by
  unfold unquoted
  rw [same]

theorem unquoted_quoted (inner : Line) : unquoted ('"' :: (inner ++ ['"'])) = inner := by
  have ends : stripChars isSpace ('"' :: (inner ++ ['"'])) = '"' :: (inner ++ ['"']) := by
    apply stripChars_of_ends
    · intro character starts
      cases starts
      rfl
    · intro character ends
      rw [← List.cons_append, List.getLast?_concat] at ends
      cases ends
      rfl
  unfold unquoted
  rw [ends, if_pos]
  · simp
  · refine ⟨by simp, ?_, by simp⟩
    rw [← List.cons_append, List.getLast?_concat]
    rfl

theorem unquoted_plain {value : Line} (plain : value.any isSpecial = false) :
    unquoted value = stripChars isSpace value := by
  unfold unquoted
  apply if_neg
  rintro ⟨-, -, quoted⟩
  have special : ∀ character, (stripChars isSpace value).head? = some character →
      isSpecial character = false := by
    intro character starts
    have found := of_mem_stripChars (List.mem_of_mem_head? starts)
    exact Bool.eq_false_iff.mpr (List.any_eq_false.mp plain character found)
  rcases quoted with double | single
  · exact absurd (special _ double) (by decide)
  · exact absurd (special _ single) (by decide)

theorem reread_special {value : String} (special : value.toList.any isSpecial = true) :
    reread value = String.ofList (escaped value.toList) := by
  rw [reread, rendered_special special, unquoted_quoted]

theorem reread_plain {value : String} (plain : value.toList.any isSpecial = false) :
    reread value = strip value := by
  rw [reread, rendered_plain plain, unquoted_plain plain]
  rfl

/-- A value comes back as it was written exactly when it is stable. -/
theorem reread_eq_iff (value : String) : reread value = value ↔ Stable value := by
  unfold Stable
  by_cases special : value.toList.any isSpecial = true
  · rw [if_pos special, reread_special special, ← escaped_eq_iff]
    constructor
    · intro same
      have texts := congrArg String.toList same
      rwa [String.toList_ofList] at texts
    · intro same
      rw [same, String.ofList_toList]
  · rw [if_neg special, reread_plain (Bool.eq_false_iff.mpr special)]

/-! ### One line -/

/-- A key as the readers leave it. -/
structure GoodKey (key : Line) : Prop where
  stripped : stripChars isSpace key = key
  noEquals : '=' ∉ key
  noHash : key.head? ≠ some '#'

theorem GoodKey.starts {key : Line} (good : GoodKey key) {character : Char}
    (first : key.head? = some character) : isSpace character = false := by
  rw [← good.stripped] at first
  exact first_stripChars first

theorem keyValue_good {raw key rest : Line} (carries : keyValue raw = some (key, rest)) :
    GoodKey key := by
  unfold keyValue at carries
  dsimp only at carries
  split at carries
  · cases carries
  · rename_i isLine
    obtain ⟨⟨before, after⟩, parts, pair⟩ := Option.map_eq_some_iff.mp carries
    cases pair
    obtain ⟨whole, absent⟩ := partition_eq_some.mp parts
    refine ⟨stripChars_stripChars _ _, fun found => absent (of_mem_stripChars found), ?_⟩
    intro hash
    apply isLine
    right
    cases before with
    | nil => cases hash
    | cons first others =>
        have solid : isSpace first = false := by
          apply first_stripChars
          rw [whole]
          rfl
        rw [head_stripChars solid] at hash
        rw [whole, ← hash]
        rfl

/-- An emitted line gives its key and its value back. -/
theorem pairOf_line {key value : String} (good : GoodKey key.toList) :
    pairOf (line key value) = some (key, reread value) := by
  have ends : stripChars isSpace (line key value) = key.toList ++ '=' ::
      ((rendered value.toList).reverse.dropWhile isSpace).reverse :=
    stripChars_append_kept (fun _ => good.starts) (by decide) _
  have isLine : ¬(stripChars isSpace (line key value) = [] ∨
      (stripChars isSpace (line key value)).head? = some '#') := by
    rw [ends]
    have noHash := good.noHash
    cases characters : key.toList with
    | nil => simp
    | cons first rest =>
        rw [characters] at noHash
        simpa using noHash
  have carries : keyValue (line key value) = some (key.toList,
      ((rendered value.toList).reverse.dropWhile isSpace).reverse) := by
    unfold keyValue
    dsimp only
    rw [if_neg isLine, ends, partition_eq_some.mpr ⟨rfl, good.noEquals⟩, Option.map_some,
      good.stripped]
  unfold pairOf
  rw [carries, Option.map_some, String.ofList_toList,
    unquoted_congr (stripChars_dropEnd isSpace (rendered value.toList))]
  rfl

/-- The newline at the end of a line is no part of it. -/
theorem pairOf_newline (raw : Line) : pairOf (raw ++ ['\n']) = pairOf raw := by
  have blank : ∀ character ∈ ['\n'], isSpace character = true := by
    intro character newline
    rw [List.mem_singleton.mp newline]
    rfl
  unfold pairOf keyValue
  rw [stripChars_append_dropped blank]

/-! ### One file -/

theorem breakLines_unbroken {text raw : Line} (isLine : raw ∈ breakLines text) :
    Unbroken raw := by
  induction text generalizing raw with
  | nil => cases isLine
  | cons first rest ih =>
      rw [breakLines] at isLine
      split at isLine
      · rcases List.mem_cons.mp isLine with rfl | later
        · exact fun _ found => by cases found
        · exact ih later
      · rename_i unbroken
        have solid : isBreak first = false := Bool.eq_false_iff.mpr unbroken
        split at isLine
        · obtain rfl := List.mem_singleton.mp isLine
          simpa [Unbroken] using solid
        · rename_i head others lines
          rcases List.mem_cons.mp isLine with rfl | later
          · have headUnbroken : Unbroken head := ih (by simp [lines])
            exact List.forall_mem_cons.mpr ⟨solid, headUnbroken⟩
          · exact ih (by simp [lines, later])

theorem Unbroken.clean {text : List Char} (unbroken : Unbroken text) : '\r' ∉ text :=
  fun found => absurd (unbroken _ found) (by decide)

theorem Unbroken.oneLine {text : List Char} (unbroken : Unbroken text) : '\n' ∉ text :=
  fun found => absurd (unbroken _ found) (by decide)

theorem toList_fileText (lines : List Line) :
    (fileText lines).toList =
      (if lines = [] then [[]] else lines).flatMap (· ++ ['\n']) := by
  rw [fileText, String.toList_ofList]
  cases lines with
  | nil => rfl
  | cons first rest =>
      rw [if_neg (by simp)]
      induction rest generalizing first with
      | nil => simp [join, List.intercalate]
      | cons second others ih =>
          rw [join_cons, List.append_assoc, ih]
          rfl

theorem splitLines_ended {lines : List Line} (unbroken : ∀ raw ∈ lines, Unbroken raw) :
    splitLines (lines.flatMap (· ++ ['\n'])) = lines := by
  induction lines with
  | nil => rfl
  | cons first rest ih =>
      rw [List.flatMap_cons, List.append_assoc, List.singleton_append,
        splitLines_line (unbroken first (List.mem_cons_self ..)),
        ih fun raw found => unbroken raw (List.mem_cons_of_mem _ found)]

theorem fileLines_line {raw : Line} (oneLine : '\n' ∉ raw) (after : List Char) :
    fileLines (raw ++ '\n' :: after) = (raw ++ ['\n']) :: fileLines after := by
  induction raw with
  | nil => simp [fileLines]
  | cons first rest ih =>
      obtain ⟨other, later⟩ := List.ne_and_not_mem_of_not_mem_cons oneLine
      rw [List.cons_append, fileLines, if_neg (Ne.symm other), ih later]
      rfl

theorem fileLines_ended {lines : List Line} (unbroken : ∀ raw ∈ lines, Unbroken raw) :
    fileLines (lines.flatMap (· ++ ['\n'])) = lines.map (· ++ ['\n']) := by
  induction lines with
  | nil => rfl
  | cons first rest ih =>
      rw [List.flatMap_cons, List.append_assoc, List.singleton_append,
        fileLines_line (unbroken first (List.mem_cons_self ..)).oneLine,
        ih fun raw found => unbroken raw (List.mem_cons_of_mem _ found), List.map_cons]

theorem read_fileText {lines : List Line} (unbroken : ∀ raw ∈ lines, Unbroken raw) :
    readExistingEnv (fileText lines) = PyDict.ofPairs (lines.filterMap pairOf) ∧
      loadEnv (fileText lines) = PyDict.ofPairs (lines.filterMap pairOf) := by
  have shown : ∀ raw ∈ (if lines = [] then [[]] else lines), Unbroken raw := by
    split
    · simp [Unbroken]
    · exact unbroken
  have clean : '\r' ∉ (fileText lines).toList := by
    rw [toList_fileText, List.mem_flatMap]
    rintro ⟨raw, isLine, found⟩
    rcases List.mem_append.mp found with inLine | newline
    · exact (shown raw isLine).clean inLine
    · simp at newline
  have pairs : (if lines = [] then [[]] else lines).filterMap pairOf =
      lines.filterMap pairOf := by
    split
    · rename_i none
      rw [none]
      rfl
    · rfl
  constructor
  · rw [readExistingEnv, universal_of_clean clean, parseEnvPairs, toList_fileText,
      splitLines_ended shown, pairs]
  · have newlines : pairOf ∘ (· ++ ['\n']) = pairOf := funext pairOf_newline
    rw [loadEnv, universal_of_clean clean, toList_fileText, fileLines_ended shown,
      List.filterMap_map, newlines, pairs]

/-! ### What an emitted file holds -/

theorem unbroken_append {first second : List Char} :
    Unbroken (first ++ second) ↔ Unbroken first ∧ Unbroken second :=
  List.forall_mem_append

theorem unbroken_cons {first : Char} {rest : List Char} :
    Unbroken (first :: rest) ↔ isBreak first = false ∧ Unbroken rest :=
  List.forall_mem_cons

theorem Unbroken.strip {text : List Char} (unbroken : Unbroken text) :
    Unbroken (stripChars isSpace text) :=
  fun character found => unbroken character (of_mem_stripChars found)

theorem Unbroken.replaceChar {text new : List Char} {old : Char} (unbroken : Unbroken text)
    (newUnbroken : Unbroken new) : Unbroken (replaceChar old new text) := by
  intro character found
  obtain ⟨read, inText, written⟩ := List.mem_flatMap.mp found
  split at written
  · exact newUnbroken character written
  · rw [List.mem_singleton.mp written]
    exact unbroken read inText

theorem Unbroken.rendered {value : List Char} (unbroken : Unbroken value) :
    Unbroken (rendered value) := by
  unfold EnvFile.rendered
  split
  · have backslashes : Unbroken ['\\', '\\'] := by decide
    have quote : Unbroken ['\\', '"'] := by decide
    have ending : Unbroken ['"'] := by decide
    have inner : Unbroken (escaped value) :=
      (unbroken.replaceChar backslashes).replaceChar quote
    exact unbroken_cons.mpr ⟨rfl, unbroken_append.mpr ⟨inner, ending⟩⟩
  · exact unbroken

theorem unbroken_line {key value : String} (keyUnbroken : Unbroken key.toList)
    (valueUnbroken : Unbroken value.toList) : Unbroken (line key value) :=
  unbroken_append.mpr ⟨keyUnbroken, unbroken_cons.mpr ⟨rfl, valueUnbroken.rendered⟩⟩

theorem keyValue_unbroken {raw key rest : Line} (unbroken : Unbroken raw)
    (carries : keyValue raw = some (key, rest)) : Unbroken key ∧ Unbroken rest := by
  unfold keyValue at carries
  dsimp only at carries
  split at carries
  · cases carries
  · obtain ⟨⟨before, after⟩, parts, pair⟩ := Option.map_eq_some_iff.mp carries
    cases pair
    obtain ⟨whole, -⟩ := partition_eq_some.mp parts
    have both := unbroken.strip
    rw [whole, unbroken_append, unbroken_cons] at both
    exact ⟨both.1.strip, both.2.2⟩

theorem Unbroken.unquoted {text : Line} (unbroken : Unbroken text) :
    Unbroken (unquoted text) := by
  unfold EnvFile.unquoted
  dsimp only
  split
  · intro character found
    exact unbroken.strip character (List.mem_of_mem_tail (List.mem_of_mem_dropLast found))
  · exact unbroken.strip

/-- An item that lines of a file can carry. -/
structure GoodItem (item : String × String) : Prop where
  key : GoodKey item.1.toList
  keyUnbroken : Unbroken item.1.toList
  valueUnbroken : Unbroken item.2.toList

theorem pairOf_good {raw : Line} {item : String × String} (unbroken : Unbroken raw)
    (carries : pairOf raw = some item) : GoodItem item := by
  obtain ⟨⟨key, rest⟩, parts, rfl⟩ := Option.map_eq_some_iff.mp carries
  obtain ⟨keyUnbroken, restUnbroken⟩ := keyValue_unbroken unbroken parts
  exact ⟨by rw [String.toList_ofList]; exact keyValue_good parts,
    by rwa [String.toList_ofList],
    by rw [String.toList_ofList]; exact restUnbroken.unquoted⟩

theorem onDisk_good {target : Option String} {item : String × String}
    (found : item ∈ onDisk target) : GoodItem item := by
  cases target with
  | none => cases found
  | some text =>
      obtain ⟨raw, isLine, carries⟩ :=
        List.mem_filterMap.mp (PyDict.mem_of_mem_ofPairs found)
      exact pairOf_good (breakLines_unbroken isLine) carries

theorem nodup_keys_onDisk (target : Option String) :
    (PyDict.keys (onDisk target)).Nodup := by
  cases target with
  | none => exact List.nodup_nil
  | some text => exact PyDict.nodup_keys_ofPairs _

theorem keysOf_good {template key : String} (carried : key ∈ keysOf template) :
    GoodKey key.toList ∧ Unbroken key.toList := by
  obtain ⟨raw, isLine, carries⟩ := List.mem_filterMap.mp carried
  obtain ⟨⟨text, rest⟩, parts, rfl⟩ := Option.map_eq_some_iff.mp carries
  rw [String.toList_ofList]
  exact ⟨keyValue_good parts, (keyValue_unbroken (breakLines_unbroken isLine) parts).1⟩

section LayOut

variable {template : String} {value : String → String} {extra : PyDict String String}

theorem layOut_unbroken (values : ∀ key ∈ keysOf template, Unbroken (value key).toList)
    (items : ∀ item ∈ extra, GoodItem item) :
    ∀ raw ∈ layOut (splitLines template.toList) value extra, Unbroken raw := by
  have headerUnbroken : ∀ raw ∈ [[], "# Not in the template, kept as found.".toList],
      Unbroken raw := by
    intro raw header
    simp only [List.mem_cons, List.not_mem_nil, or_false] at header
    rcases header with rfl | rfl
    · decide
    · decide
  intro raw isLine
  rcases List.mem_append.mp isLine with inTemplate | kept
  · obtain ⟨old, oldLine, rfl⟩ := List.mem_map.mp inTemplate
    unfold templateLine
    cases carries : keyOf old with
    | none => exact breakLines_unbroken oldLine
    | some key =>
        have carried : key ∈ keysOf template := List.mem_filterMap.mpr ⟨old, oldLine, carries⟩
        exact unbroken_line (keysOf_good carried).2 (values key carried)
  · split at kept
    · cases kept
    · rcases List.mem_append.mp kept with header | written
      · exact headerUnbroken raw header
      · obtain ⟨item, found, rfl⟩ := List.mem_map.mp written
        exact unbroken_line (items item found).keyUnbroken (items item found).valueUnbroken

/-- The pairs of the lines of an emitted file. -/
theorem layOut_pairs (items : ∀ item ∈ extra, GoodItem item) :
    (layOut (splitLines template.toList) value extra).filterMap pairOf =
      (keysOf template).map (fun key => (key, reread (value key))) ++
        extra.map fun item => (item.1, reread item.2) := by
  have headerPairs : ([[], "# Not in the template, kept as found.".toList] :
      List Line).filterMap pairOf = [] := by
    decide
  have kept : (if extra = [] then []
      else [[], "# Not in the template, kept as found.".toList] ++
        extra.map fun item => line item.1 item.2).filterMap pairOf =
      extra.map fun item => (item.1, reread item.2) := by
    split
    · rename_i none
      rw [none]
      rfl
    · rw [List.filterMap_append, headerPairs, List.nil_append, List.filterMap_map,
        ← List.filterMap_eq_map]
      apply List.filterMap_congr
      intro item found
      exact pairOf_line (items item found).key
  rw [layOut, List.filterMap_append, kept, keysOf, List.filterMap_map]
  rw [List.map_filterMap]
  congr 1
  apply List.filterMap_congr
  intro raw isLine
  rw [Function.comp_apply, templateLine]
  cases carries : keyOf raw with
  | none =>
      have noParts := Option.map_eq_none_iff.mp carries
      simp [pairOf, noParts]
  | some key =>
      have carried : key ∈ keysOf template := List.mem_filterMap.mpr ⟨raw, isLine, carries⟩
      exact pairOf_line (keysOf_good carried).1

/-- The lines of two files with the same template are the same when each value
is rendered alike. -/
theorem layOut_eq_iff {other : String → String} (change : String → String) :
    layOut (splitLines template.toList) other
        (extra.map fun item => (item.1, change item.2)) =
      layOut (splitLines template.toList) value extra ↔
    (∀ key ∈ keysOf template, rendered (other key).toList = rendered (value key).toList) ∧
      ∀ item ∈ extra, rendered (change item.2).toList = rendered item.2.toList := by
  have sameLine (key first second : String) : line key first = line key second ↔
      rendered first.toList = rendered second.toList := by
    simp [line]
  have front : (splitLines template.toList).map (templateLine other) =
      (splitLines template.toList).map (templateLine value) ↔
      ∀ key ∈ keysOf template,
        rendered (other key).toList = rendered (value key).toList := by
    rw [List.map_inj_left]
    constructor
    · intro alike key carried
      obtain ⟨raw, isLine, carries⟩ := List.mem_filterMap.mp carried
      have lines := alike raw isLine
      simp only [templateLine, carries] at lines
      exact (sameLine key _ _).mp lines
    · intro alike raw isLine
      unfold templateLine
      cases carries : keyOf raw with
      | none => rfl
      | some key =>
          exact (sameLine key _ _).mpr
            (alike key (List.mem_filterMap.mpr ⟨raw, isLine, carries⟩))
  have back : (extra.map fun item => (item.1, change item.2)).map
        (fun item => line item.1 item.2) = extra.map (fun item => line item.1 item.2) ↔
      ∀ item ∈ extra, rendered (change item.2).toList = rendered item.2.toList := by
    rw [List.map_map, List.map_inj_left]
    simp only [Function.comp_apply, sameLine]
  rw [← front, ← back, layOut, layOut]
  by_cases none : extra = []
  · simp [none]
  · rw [if_neg none, if_neg (by simpa using none)]
    constructor
    · intro same
      obtain ⟨sameFront, sameBack⟩ := List.append_inj same (by simp)
      exact ⟨sameFront, List.append_cancel_left sameBack⟩
    · rintro ⟨sameFront, sameBack⟩
      rw [sameFront, sameBack]

theorem layOut_length {other : String → String} (change : String → String) :
    (layOut (splitLines template.toList) other
        (extra.map fun item => (item.1, change item.2))).length =
      (layOut (splitLines template.toList) value extra).length := by
  rw [layOut, layOut, List.length_append, List.length_append, List.length_map,
    List.length_map]
  by_cases none : extra = []
  · rw [none]
    rfl
  · have some : (extra.map fun item => (item.1, change item.2)) ≠ [] := by
      rwa [ne_eq, List.map_eq_nil_iff]
    rw [if_neg none, if_neg some, List.length_append, List.length_append, List.length_map,
      List.length_map, List.length_map]

end LayOut

/-- Different lists of unbroken lines make different files. -/
theorem fileText_injective {first second : List Line}
    (firstUnbroken : ∀ raw ∈ first, Unbroken raw)
    (secondUnbroken : ∀ raw ∈ second, Unbroken raw) (length : first.length = second.length)
    (same : fileText first = fileText second) : first = second := by
  cases first with
  | nil => exact (List.length_eq_zero_iff.mp length.symm).symm
  | cons raw rest =>
      have nonempty : second ≠ [] := by
        rintro rfl
        cases length
      have texts := congrArg String.toList same
      rw [toList_fileText, toList_fileText, if_neg (by simp), if_neg nonempty] at texts
      rw [← splitLines_ended firstUnbroken, texts, splitLines_ended secondUnbroken]

/-- A value that came back is rendered as before exactly when it is stable. -/
theorem rendered_reread_iff (value : String) :
    rendered (reread value).toList = rendered value.toList ↔ Stable value := by
  constructor
  · intro same
    unfold Stable
    by_cases special : value.toList.any isSpecial = true
    · rw [if_pos special]
      rw [reread_special special, String.toList_ofList, rendered_special special,
        rendered_special (special_escaped special), List.cons.injEq,
        List.append_cancel_right_eq, escaped_eq_iff] at same
      exact ⟨fun found => same.2.1 (mem_escaped found),
        fun found => same.2.2 (mem_escaped found)⟩
    · have plain := Bool.eq_false_iff.mpr special
      rw [if_neg special]
      have stripped : (strip value).toList.any isSpecial = false := by
        rw [strip, String.toList_ofList, List.any_eq_false]
        intro character found
        exact List.any_eq_false.mp plain character (of_mem_stripChars found)
      rw [reread_plain plain, rendered_plain plain, rendered_plain stripped] at same
      exact String.ext_iff.mpr same
  · intro stable
    rw [(reread_eq_iff value).mpr stable]

/-! ### Emitting a file -/

section Emit

variable {values : PyDict String String} (template : String) (keepExisting : Bool)
  (target : Option String)

theorem chosen_unbroken {existing : PyDict String String}
    (free : ∀ item ∈ values, Unbroken item.2.toList)
    (good : ∀ item ∈ existing, GoodItem item) (key : String) :
    Unbroken (chosen values existing key).toList := by
  unfold chosen
  split
  · rename_i value found
    exact (good _ (PyDict.mem_of_get found)).valueUnbroken
  · cases found : PyDict.get values key with
    | none => exact fun character member => by cases member
    | some value => exact free _ (PyDict.mem_of_get found)

theorem existing_good :
    ∀ item ∈ (if keepExisting then onDisk target else []), GoodItem item := by
  intro item found
  split at found
  · exact onDisk_good found
  · cases found

theorem extras_good : ∀ item ∈ extras template target, GoodItem item :=
  fun _ found => onDisk_good (List.mem_of_mem_filter found)

/-- The template's keys with their values as they come back. -/
def rereadKeys (template : String) (value : String → String) : List (String × String) :=
  (keysOf template).map fun key => (key, reread (value key))

/-- The extra items with their values as they come back. -/
def rereadExtras (template : String) (target : Option String) : PyDict String String :=
  (extras template target).map fun item => (item.1, reread item.2)

theorem keys_rereadKeys (value : String → String) :
    PyDict.keys (rereadKeys template value) = keysOf template := by
  simp [rereadKeys, PyDict.keys, Function.comp_def]

theorem get_rereadKeys (value : String → String) (key : String) :
    PyDict.get (PyDict.ofPairs (rereadKeys template value)) key =
      if key ∈ keysOf template then some (reread (value key)) else none := by
  split
  · rename_i carried
    have found : (key, reread (value key)) ∈ rereadKeys template value :=
      List.mem_map.mpr ⟨key, carried, rfl⟩
    apply PyDict.get_ofPairs_of_mem found
    intro other same
    obtain ⟨again, -, pair⟩ := List.mem_map.mp same
    cases pair
    rfl
  · rename_i absent
    rw [PyDict.get_ofPairs_eq_none_iff, keys_rereadKeys]
    exact absent

theorem keys_rereadExtras :
    PyDict.keys (rereadExtras template target) = PyDict.keys (extras template target) := by
  simp [rereadExtras, PyDict.keys]

theorem keys_extras {key : String} (found : key ∈ PyDict.keys (extras template target)) :
    key ∉ keysOf template := by
  obtain ⟨item, kept, rfl⟩ := List.mem_map.mp found
  simpa using (List.mem_filter.mp kept).2

theorem emitted_unbroken (free : ∀ item ∈ values, Unbroken item.2.toList) :
    ∀ raw ∈ layOut (splitLines template.toList)
      (chosen values (if keepExisting then onDisk target else [])) (extras template target),
      Unbroken raw :=
  layOut_unbroken
    (fun key _ => chosen_unbroken free (existing_good keepExisting target) key)
    (extras_good template target)

/-- Both readers find the template's keys with their values and the extra items
after them. -/
theorem read_emitEnv (free : ∀ item ∈ values, Unbroken item.2.toList) :
    readExistingEnv (emitEnv template values keepExisting target) =
        PyDict.ofPairs (rereadKeys template
          (chosen values (if keepExisting then onDisk target else []))) ++
          rereadExtras template target ∧
      loadEnv (emitEnv template values keepExisting target) =
        readExistingEnv (emitEnv template values keepExisting target) := by
  obtain ⟨existing, loaded⟩ := read_fileText (emitted_unbroken template keepExisting target free)
  refine ⟨?_, loaded.trans existing.symm⟩
  rw [emitEnv, existing, layOut_pairs (extras_good template target)]
  apply PyDict.ofPairs_append
  · have nodup : (PyDict.keys (extras template target)).Nodup :=
      (nodup_keys_onDisk target).sublist (List.filter_sublist.map _)
    rwa [← keys_rereadExtras] at nodup
  · intro key found carried
    rw [← rereadExtras, keys_rereadExtras] at found
    rw [← rereadKeys, keys_rereadKeys] at carried
    exact keys_extras template target found carried

/-- What both readers give back for a key is what was meant, reread. -/
theorem get_emitEnv (free : ∀ item ∈ values, Unbroken item.2.toList) (key : String) :
    PyDict.get (readExistingEnv (emitEnv template values keepExisting target)) key =
      (meant template values keepExisting target key).map reread := by
  rw [(read_emitEnv template keepExisting target free).1, PyDict.get_append, get_rereadKeys, meant]
  by_cases carried : key ∈ keysOf template
  · rw [if_pos carried, if_pos carried]
    rfl
  · rw [if_neg carried, if_neg carried, Option.none_or, rereadExtras]
    induction extras template target with
    | nil => rfl
    | cons item rest ih =>
        obtain ⟨present, value⟩ := item
        by_cases same : present = key
        · simp [PyDict.get, same]
        · simpa [PyDict.get, same] using ih

/-- Both readers give every key the value that was meant for it. -/
def ComesBack (text : String) (wanted : String → Option String) : Prop :=
  ∀ key, PyDict.get (readExistingEnv text) key = wanted key ∧
    PyDict.get (loadEnv text) key = wanted key

/-- Every value that was meant for a key is stable. -/
def AllStable (wanted : String → Option String) : Prop :=
  ∀ key value, wanted key = some value → Stable value

theorem map_reread_eq_iff (kept : Option String) :
    kept.map reread = kept ↔ ∀ value, kept = some value → Stable value := by
  cases kept with
  | none => simp
  | some value => simp [reread_eq_iff]

theorem emitEnv_comesBack_iff (free : ∀ item ∈ values, Unbroken item.2.toList) :
    ComesBack (emitEnv template values keepExisting target)
        (meant template values keepExisting target) ↔
      AllStable (meant template values keepExisting target) := by
  unfold ComesBack AllStable
  apply forall_congr'
  intro key
  rw [(read_emitEnv template keepExisting target free).2, and_self,
    get_emitEnv template keepExisting target free, map_reread_eq_iff]

theorem allStable_meant_iff :
    AllStable (meant template values keepExisting target) ↔
      (∀ key ∈ keysOf template,
        Stable (chosen values (if keepExisting then onDisk target else []) key)) ∧
      ∀ item ∈ extras template target, Stable item.2 := by
  have nodup : (PyDict.keys (extras template target)).Nodup :=
    (nodup_keys_onDisk target).sublist (List.filter_sublist.map _)
  constructor
  · intro all
    refine ⟨fun key carried => all key _ (if_pos carried), fun item found => ?_⟩
    have apart := keys_extras template target (List.mem_map_of_mem found)
    apply all item.1
    rw [meant, if_neg apart]
    exact PyDict.get_of_mem nodup found
  · rintro ⟨keys, items⟩ key value wanted
    unfold meant at wanted
    split at wanted
    · rename_i carried
      rw [← Option.some.inj wanted]
      exact keys key carried
    · exact items _ (PyDict.mem_of_get wanted)

/-- The second time, the file that is there has the extra items as they came
back. -/
theorem extras_emitEnv (free : ∀ item ∈ values, Unbroken item.2.toList) :
    extras template (some (emitEnv template values keepExisting target)) =
      rereadExtras template target := by
  rw [extras, onDisk, (read_emitEnv template keepExisting target free).1, List.filter_append]
  have fromTemplate : (PyDict.ofPairs (rereadKeys template
      (chosen values (if keepExisting then onDisk target else [])))).filter
        (fun item => item.1 ∉ keysOf template) = [] := by
    rw [List.filter_eq_nil_iff]
    intro item found
    have carried := List.mem_map_of_mem (f := Prod.fst) (PyDict.mem_of_mem_ofPairs found)
    have isKey : item.1 ∈ PyDict.keys (rereadKeys template
      (chosen values (if keepExisting then onDisk target else []))) := carried
    rw [keys_rereadKeys] at isKey
    simpa using isKey
  have kept : (rereadExtras template target).filter
      (fun item => item.1 ∉ keysOf template) = rereadExtras template target := by
    rw [List.filter_eq_self]
    intro item found
    have isKey : item.1 ∈ PyDict.keys (rereadExtras template target) :=
      List.mem_map_of_mem found
    rw [keys_rereadExtras] at isKey
    simpa using keys_extras template target isKey
  rw [fromTemplate, kept, List.nil_append]

/-- Emitting again, with what is in the file kept, writes the values as they
came back. -/
theorem emitEnv_again_iff (free : ∀ item ∈ values, Unbroken item.2.toList)
    (again : PyDict String String) :
    emitEnv template again true (some (emitEnv template values keepExisting target)) =
        emitEnv template values keepExisting target ↔
      AllStable (meant template values keepExisting target) := by
  have found : ∀ key ∈ keysOf template, PyDict.get
      (onDisk (some (emitEnv template values keepExisting target))) key =
        some (reread (chosen values (if keepExisting then onDisk target else []) key)) := by
    intro key carried
    have read := get_emitEnv template keepExisting target free key
    rwa [meant, if_pos carried, Option.map_some] at read
  have second : ∀ key ∈ keysOf template,
      chosen again (onDisk (some (emitEnv template values keepExisting target))) key =
        reread (chosen values (if keepExisting then onDisk target else []) key) := by
    intro key carried
    rw [chosen, found key carried]
  have unbrokenAgain : ∀ raw ∈ layOut (splitLines template.toList)
      (chosen again (onDisk (some (emitEnv template values keepExisting target))))
      (rereadExtras template target), Unbroken raw := by
    rw [← extras_emitEnv template keepExisting target free]
    apply layOut_unbroken
    · intro key carried
      rw [second key carried]
      exact (onDisk_good (PyDict.mem_of_get (found key carried))).valueUnbroken
    · exact extras_good template _
  have sameFile : emitEnv template again true
        (some (emitEnv template values keepExisting target)) =
      emitEnv template values keepExisting target ↔
      layOut (splitLines template.toList)
        (chosen again (onDisk (some (emitEnv template values keepExisting target))))
        (rereadExtras template target) =
      layOut (splitLines template.toList)
        (chosen values (if keepExisting then onDisk target else []))
        (extras template target) := by
    rw [emitEnv, if_pos rfl, extras_emitEnv template keepExisting target free]
    constructor
    · intro same
      exact fileText_injective unbrokenAgain
        (emitted_unbroken template keepExisting target free) (layOut_length reread) same
    · intro same
      exact congrArg fileText same
  rw [sameFile, rereadExtras, layOut_eq_iff, allStable_meant_iff]
  refine and_congr (forall₂_congr fun key carried => ?_) (forall₂_congr fun item found => ?_)
  · rw [second key carried, rendered_reread_iff]
  · exact rendered_reread_iff item.2

end Emit

/-! ### Saving and opening a run -/

/-- The installer's run with `seed`'s writer and reader. -/
def envTools (knobs : Knobs) (py : Builtins) (pid : Int) : Installer.Tools where
  writeEnv old answers := writeEnv knobs answers old
  readExistingEnv := readExistingEnv
  py := py
  pid := pid

theorem mem_overlay {first second : PyDict String String} {item : String × String}
    (firstNodup : (PyDict.keys first).Nodup) (found : item ∈ overlay first second) :
    item ∈ first ∨ item ∈ second := by
  have looked := PyDict.get_of_mem (PyDict.nodup_keys_foldl_set second firstNodup) found
  rw [PyDict.get_foldl_set, Option.or_eq_some_iff] at looked
  rcases looked with inSecond | ⟨-, inFirst⟩
  · exact .inr (List.mem_reverse.mp (PyDict.mem_of_get inSecond))
  · exact .inl (PyDict.mem_of_get inFirst)

/-- The registry's defaults and the answers break no line. -/
def Free (knobs : Knobs) (answers : PyDict String String) : Prop :=
  (∀ item ∈ knobs.envKeys, Unbroken item.2.toList) ∧
    ∀ item ∈ answers, Unbroken item.2.toList

theorem Free.overlay {knobs : Knobs} {answers : PyDict String String}
    (free : Free knobs answers) :
    ∀ item ∈ overlay (PyDict.ofPairs knobs.envKeys) answers, Unbroken item.2.toList := by
  intro item found
  rcases mem_overlay (PyDict.nodup_keys_ofPairs _) found with default | answered
  · exact free.1 item (PyDict.mem_of_mem_ofPairs default)
  · exact free.2 item answered

theorem get_writeEnv {knobs : Knobs} {answers : PyDict String String}
    (free : Free knobs answers) (target : Option String) (key : String) :
    PyDict.get (readExistingEnv (writeEnv knobs answers target)) key =
      (meantAnswer knobs answers target key).map reread :=
  get_emitEnv knobs.template false target free.overlay key

/-- An answer for a key of the template is what `write_env` means it to
have. -/
theorem meantAnswer_answered {knobs : Knobs} {answers : PyDict String String}
    (target : Option String) (nodup : (PyDict.keys answers).Nodup) {key value : String}
    (carried : key ∈ keysOf knobs.template)
    (answered : PyDict.get answers key = some value) :
    meantAnswer knobs answers target key = some value := by
  have member : (key, value) ∈ answers.reverse :=
    List.mem_reverse.mpr (PyDict.mem_of_get answered)
  have reversed : (PyDict.keys answers.reverse).Nodup := by
    rw [PyDict.keys, List.map_reverse, List.nodup_reverse]
    exact nodup
  have laid : PyDict.get (overlay (PyDict.ofPairs knobs.envKeys) answers) key = some value := by
    rw [overlay, PyDict.get_foldl_set, PyDict.get_of_mem reversed member, Option.some_or]
  rw [meantAnswer, meant, if_pos carried, chosen]
  simp [laid]

/-- A run opened from a folder with both files has the answers of its `.env`. -/
theorem load_answers {tools : Installer.Tools} {processes : Installer.Processes}
    {secretKeys : List String} {inventory text : String} {state : Installer.StateFile}
    {opened : Installer.Run}
    (loads : Installer.load tools processes secretKeys inventory
      (some ⟨some text, some state⟩) = some opened) :
    opened.answers = (tools.readExistingEnv text).filter
      fun answered => !secretKeys.contains answered.1 := by
  unfold Installer.load at loads
  dsimp only [Option.bind_some] at loads
  obtain ⟨word, -, rfl⟩ := Option.map_eq_some_iff.mp loads
  rfl

section Run

variable {knobs : Knobs} {py : Builtins} {pid : Int} {processes : Installer.Processes}
  {run opened : Installer.Run} {old : Option Installer.Folder} {inventory : String}

/-- The answers `save` hands to the writer. -/
def savedAnswers (run : Installer.Run) : PyDict String String :=
  run.answers.filter fun answered => !run.secretKeys.contains answered.1

theorem notSecret {secretKeys : List String} :
    (fun answered : String × String => !secretKeys.contains answered.1) =
      fun answered => decide (answered.1 ∉ secretKeys) := by
  funext answered
  simp

theorem opened_answers (free : Free knobs run.answers)
    (loads : Installer.load (envTools knobs py pid) processes run.secretKeys inventory
      (some (run.save (envTools knobs py pid) old)) = some opened)
    {key : String} (open_ : key ∉ run.secretKeys) :
    PyDict.get opened.answers key =
      (meantAnswer knobs (savedAnswers run) (old.bind Installer.Folder.env) key).map
        reread := by
  have freeSaved : Free knobs (savedAnswers run) :=
    ⟨free.1, fun item found => free.2 item (List.mem_of_mem_filter found)⟩
  have answers := load_answers loads
  dsimp only [envTools] at answers
  rw [answers, notSecret, PyDict.get_filter _ (· ∉ run.secretKeys), if_pos open_,
    ← notSecret, ← savedAnswers, get_writeEnv freeSaved]

/-- Every key of the template that is no credential is answered, with a stable value, and
every other answer is what the file that was there has for it, reread. -/
def AnswersKept (knobs : Knobs) (run : Installer.Run) (target : Option String) : Prop :=
  ∀ key, key ∉ run.secretKeys →
    if key ∈ keysOf knobs.template then
      ∃ value, PyDict.get run.answers key = some value ∧ Stable value
    else PyDict.get run.answers key = (PyDict.get (onDisk target) key).map reread

/-- A key of the template always has a value: its answer, a default, or an empty one. -/
theorem meantAnswer_carried (answers : PyDict String String) (target : Option String)
    {key : String} (carried : key ∈ keysOf knobs.template) :
    ∃ value, meantAnswer knobs answers target key = some value :=
  ⟨_, if_pos carried⟩

theorem meantAnswer_extra (answers : PyDict String String) (target : Option String)
    {key : String} (absent : key ∉ keysOf knobs.template) :
    meantAnswer knobs answers target key = PyDict.get (onDisk target) key := by
  rw [meantAnswer, meant, if_neg absent, extras,
    PyDict.get_filter _ (· ∉ keysOf knobs.template), if_pos absent]

/-- A run that is saved and opened again has the answers it had, less the credentials,
exactly when the `.env` keeps them. -/
theorem opened_answers_iff (free : Free knobs run.answers)
    (nodup : (PyDict.keys run.answers).Nodup)
    (loads : Installer.load (envTools knobs py pid) processes run.secretKeys inventory
      (some (run.save (envTools knobs py pid) old)) = some opened) :
    (∀ key, PyDict.get opened.answers key = PyDict.get (savedAnswers run) key) ↔
      AnswersKept knobs run (old.bind Installer.Folder.env) := by
  have savedNodup : (PyDict.keys (savedAnswers run)).Nodup :=
    nodup.sublist (List.filter_sublist.map _)
  have saved (key : String) : PyDict.get (savedAnswers run) key =
      if key ∉ run.secretKeys then PyDict.get run.answers key else none := by
    rw [savedAnswers, notSecret, PyDict.get_filter _ (· ∉ run.secretKeys)]
  apply forall_congr'
  intro key
  by_cases secret : key ∈ run.secretKeys
  · have answers := load_answers loads
    have none : PyDict.get opened.answers key = none := by
      rw [answers, notSecret, PyDict.get_filter _ (· ∉ run.secretKeys),
        if_neg (not_not.mpr secret)]
    rw [none, saved, if_neg (not_not.mpr secret)]
    exact ⟨fun _ notSecret => absurd secret notSecret, fun _ => rfl⟩
  · rw [opened_answers free loads secret, saved, if_pos secret, forall_prop_of_true secret]
    split
    · rename_i carried
      obtain ⟨written, meant⟩ := meantAnswer_carried (savedAnswers run)
        (old.bind Installer.Folder.env) carried
      cases answered : PyDict.get run.answers key with
      | none => simp [meant]
      | some value =>
          rw [meantAnswer_answered _ savedNodup carried (by rw [saved, if_pos secret, answered]),
            Option.map_some, Option.some.injEq, reread_eq_iff]
          simp
    · rename_i absent
      rw [meantAnswer_extra _ _ absent]
      exact eq_comm

end Run

def oneKey : Knobs where
  template := "A=1\n"
  envKeys := [("A", "1")]

/-- A run with one answer, which holds a blank. -/
def oneAnswer : Installer.Run where
  inventory := "box"
  answers := [("A", "x y")]
  secretKeys := []

end Catena.EnvFile
