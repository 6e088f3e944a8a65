import Catena.ImagePin
import Catena.PyLines
import Mathlib

/-!
# The newest release

`latest_release`: the tags of a repository are read page after page, each page's
`Link` header naming the next one, and the highest tag of the form `vX.Y.Z`
wins.
-/

namespace Catena

namespace LatestRelease

open ImagePin

/-- What a run raises: `FetchError`, `ResolveError`, or what reading an answer
raises. -/
inductive Failure where
  | fetch (message : String)
  | resolve (message : String)
  | python (error : PyError)

structure Answer where
  headers : PyDict String String
  body : String

/-- What the URLs answer. -/
abbrev Web := String → Except Failure Answer

/-! ### The program -/

/-- `text.find(character)`. -/
def find (character : Char) : List Char → Option Nat
  | [] => none
  | first :: rest => if first = character then some 0 else (find character rest).map (· + 1)

def relNext : List Char := "rel=\"next\"".toList

/-- `part.replace(" ", "")`. -/
def squeeze (part : List Char) : List Char :=
  part.filter fun character => character ≠ ' '

/-- The target of one part of a `Link` header that names the next page. -/
def nextTarget (part : List Char) : Option (List Char) :=
  if PyText.contains (squeeze part) relNext then
    match find '<' part, find '>' part with
    | some start, some stop =>
        if start < stop then some ((part.take stop).drop (start + 1)) else none
    | _, _ => none
  else none

/-- `headers.get("Link") or headers.get("link") or ""`. -/
def linkText (headers : PyDict String String) : String :=
  match PyDict.get headers "Link" with
  | some link => if link = "" then (PyDict.get headers "link").getD "" else link
  | none => (PyDict.get headers "link").getD ""

def nextPage (headers : PyDict String String) : String :=
  String.ofList (((PyText.splitOn ',' (linkText headers).toList).findSome? nextTarget).getD [])

/-- `doc.get("tags") or []`, each as text. -/
def pageTags (py : Builtins) : Json → Except Failure (List String)
  | .obj fields =>
      match PyDict.get fields "tags" with
      | none => .ok []
      | some value =>
          if !value.truthy then .ok []
          else
            match value with
            | .arr items => .ok (items.map (Json.toText py))
            | .str text => .ok (text.toList.map String.singleton)
            | .obj entries => .ok (entries.map Prod.fst)
            | _ => .error (.python .typeError)
  | _ => .error (.python .attributeError)

section Program

variable (py : Builtins) (digits : DecimalDigits) (base : String) (web : Web)

/-- `Registry.get`: the path is put behind the registry's scheme and host. -/
def get (path : String) : Except Failure Answer :=
  web (base ++ path)

/-- The loop of `list_tags`, with the pages seen and the tags found. -/
def listPages : Nat → String → List String → List String → Option (Except Failure (List String))
  | 0, _, _, _ => none
  | fuel + 1, page, seen, tags =>
      if page = "" ∨ page ∈ seen then some (.ok tags)
      else
        match get base web page with
        | .error failure => some (.error failure)
        | .ok answer =>
            match py.loads answer.body with
            | none => some (.error (.python (.valueError answer.body)))
            | some doc =>
                match pageTags py doc with
                | .error failure => some (.error failure)
                | .ok found =>
                    listPages fuel (nextPage answer.headers) (page :: seen) (tags ++ found)

def firstPage (path : List Char) : String :=
  "/v2/" ++ String.ofList path ++ "/tags/list?n=100"

def listTags (fuel : Nat) (path : List Char) : Option (Except Failure (List String)) :=
  listPages py base web fuel (firstPage path) [] []

/-- The numbers of a release, compared as a tuple. -/
abbrev Numbers := ℕ ×ₗ ℕ ×ₗ ℕ

/-- `_RELEASE_TAG`: its three groups. -/
def releaseGroups (tag : List Char) : Option (List Char × List Char × List Char) := do
  let (major, rest) ← number digits (afterV tag)
  let rest ← dot rest
  let (minor, rest) ← number digits rest
  let rest ← dot rest
  let (patch, rest) ← number digits rest
  if atEnd rest then some (major, minor, patch) else none

/-- One step of the loop of `newest_release`. -/
def newer (best : Option (String × Numbers)) (tag : String) :
    Except PyError (Option (String × Numbers)) :=
  match releaseGroups digits (PyText.strip tag).toList with
  | none => return best
  | some (major, minor, patch) => do
      let major ← intOf digits major
      let minor ← intOf digits minor
      let patch ← intOf digits patch
      let key : Numbers := toLex (major, toLex (minor, patch))
      match best with
      | none => return some (PyText.strip tag, key)
      | some (name, bestKey) =>
          return if bestKey < key then some (PyText.strip tag, key) else some (name, bestKey)

def newestRelease (tags : List String) : Except PyError String :=
  (tags.foldlM (newer digits) none).map fun best => (best.map Prod.fst).getD ""

def splitRepository (repository : String) : Except Failure (List Char × List Char) :=
  let named := PyText.stripChars (fun character => character = '/')
    (PyText.stripChars PyText.isSpace repository.toList)
  if named = [] then .error (.resolve "no repository given")
  else
    match PyText.partition '/' named with
    | some (head, rest) =>
        if rest ≠ [] ∧ ('.' ∈ head ∨ ':' ∈ head ∨ head = "localhost".toList) then .ok (head, rest)
        else .ok ("registry-1.docker.io".toList, named)
    | none => .ok ("registry-1.docker.io".toList, named)

def latestRelease (fuel : Nat) (repository : String) : Option (Except Failure String) :=
  match splitRepository repository with
  | .error failure => some (.error failure)
  | .ok (_, path) =>
      (listTags py base web fuel path).map fun listed =>
        match listed with
        | .error failure => .error failure
        | .ok tags =>
            match newestRelease digits tags with
            | .error error => .error (.python error)
            | .ok version =>
                if version = "" then .error (.fetch (repository ++ " publishes no vX.Y.Z tag"))
                else .ok (repository ++ ":" ++ version)

end Program

/-! ### `Link` headers -/

/-- A link of a `Link` header: blanks, its target between angle brackets, and
its parameters. -/
structure Link where
  lead : List Char
  target : List Char
  parameters : List Char
  lead_blank : ∀ character ∈ lead, character = ' '
  target_ne_nil : target ≠ []
  /-- No comma, and nothing a target may not hold as it is. -/
  target_free : ∀ character ∈ target, character ≠ ',' ∧ character ≠ '>' ∧ character ≠ '\"'
  parameters_free : ',' ∉ parameters

/-- The link's relation is `next`. -/
def Link.isNext (link : Link) : Bool :=
  PyText.contains (squeeze link.parameters) relNext

def Link.text (link : Link) : List Char :=
  link.lead ++ '<' :: (link.target ++ '>' :: link.parameters)

def headerText (links : List Link) : String :=
  String.ofList (PyText.join [','] (links.map Link.text))

/-- The target of the first link whose relation is `next`. -/
def nextOf (links : List Link) : Option (List Char) :=
  (links.find? Link.isNext).map Link.target

theorem isPrefixOf_append_separator {separator : Char} {needle : List Char}
    (absent : separator ∉ needle) (front back : List Char) :
    needle.isPrefixOf (front ++ separator :: back) = needle.isPrefixOf front := by
  induction needle generalizing front with
  | nil => rfl
  | cons first rest ih =>
      rw [List.mem_cons, not_or] at absent
      cases front with
      | nil => simp [List.isPrefixOf, Ne.symm absent.1]
      | cons other others =>
          rw [List.cons_append, List.isPrefixOf, List.isPrefixOf, ih absent.2]

/-- A text without the separator is on one side of it. -/
theorem contains_append_separator {separator : Char} {needle : List Char}
    (absent : separator ∉ needle) (front back : List Char) :
    PyText.contains (front ++ separator :: back) needle =
      (PyText.contains front needle || PyText.contains back needle) := by
  induction front with
  | nil =>
      have start := isPrefixOf_append_separator absent [] back
      rw [List.nil_append] at start ⊢
      rw [PyText.contains, PyText.contains, start]
      cases needle <;> rfl
  | cons first rest ih =>
      have start := isPrefixOf_append_separator absent (first :: rest) back
      rw [List.cons_append] at start ⊢
      rw [PyText.contains, start, ih, PyText.contains, Bool.or_assoc]

theorem contains_eq_false {needle text : List Char} {character : Char}
    (inNeedle : character ∈ needle) (absent : character ∉ text) :
    PyText.contains text needle = false := by
  induction text with
  | nil =>
      cases needle with
      | nil => cases inNeedle
      | cons first rest => rfl
  | cons first rest ih =>
      rw [List.mem_cons, not_or] at absent
      have start : needle.isPrefixOf (first :: rest) = false := by
        rw [Bool.eq_false_iff]
        intro starts
        have inside := (List.isPrefixOf_iff_prefix.mp starts).subset inNeedle
        rcases List.mem_cons.mp inside with same | later
        · exact absent.1 same
        · exact absent.2 later
      rw [PyText.contains, start, ih absent.2, Bool.false_or]

theorem find_append {character : Char} {front : List Char} (absent : character ∉ front)
    (back : List Char) : find character (front ++ character :: back) = some front.length := by
  induction front with
  | nil => simp [find]
  | cons first rest ih =>
      rw [List.mem_cons, not_or] at absent
      rw [List.cons_append, find, if_neg (Ne.symm absent.1), ih absent.2]
      rfl

theorem Link.squeeze_text (link : Link) : squeeze link.text =
    ('<' :: squeeze link.target) ++ '>' :: squeeze link.parameters := by
  have lead : squeeze link.lead = [] := by
    rw [squeeze, List.filter_eq_nil_iff]
    intro character found
    simp [link.lead_blank character found]
  have split : squeeze link.text =
      squeeze link.lead ++ '<' :: (squeeze link.target ++ '>' :: squeeze link.parameters) := by
    simp [squeeze, Link.text]
  rw [split, lead]
  rfl

/-- A link names the next page where its relation says so. -/
theorem nextTarget_text (link : Link) :
    nextTarget link.text = if link.isNext then some link.target else none := by
  have outside : PyText.contains ('<' :: squeeze link.target) relNext = false := by
    apply @contains_eq_false relNext _ '\"'
    · decide
    · intro found
      rcases List.mem_cons.mp found with same | inside
      · cases same
      · exact (link.target_free _ (List.mem_of_mem_filter inside)).2.2 rfl
  have relation : PyText.contains (squeeze link.text) relNext = link.isNext := by
    rw [link.squeeze_text, contains_append_separator (by decide), outside, Bool.false_or]
    rfl
  have noStart : '<' ∉ link.lead := by
    intro found
    cases link.lead_blank _ found
  have noStop : '>' ∉ link.lead ++ '<' :: link.target := by
    rw [List.mem_append, List.mem_cons, not_or, not_or]
    constructor
    · intro found
      cases link.lead_blank _ found
    · constructor
      · decide
      · exact fun found => (link.target_free _ found).2.1 rfl
  have start : find '<' link.text = some link.lead.length := find_append noStart _
  have shape : link.text = (link.lead ++ '<' :: link.target) ++ '>' :: link.parameters := by
    simp [Link.text]
  have stop : find '>' link.text = some (link.lead ++ '<' :: link.target).length := by
    rw [shape]
    exact find_append noStop _
  rw [nextTarget, relation, start, stop]
  split
  · simp only
    rw [if_pos (by simp), shape, List.take_left]
    simp
  · rfl

theorem Link.comma_notMem_text (link : Link) : ',' ∉ link.text := by
  simp only [Link.text, List.mem_append, List.mem_cons, not_or]
  refine ⟨?_, by decide, ?_, by decide, link.parameters_free⟩
  · intro found
    cases link.lead_blank _ found
  · exact fun found => (link.target_free _ found).1 rfl

/-- The next page is the target of the first link whose relation is `next`. -/
theorem nextPage_eq {headers : PyDict String String} {links : List Link}
    (header : linkText headers = headerText links) :
    nextPage headers = String.ofList ((nextOf links).getD []) := by
  rw [nextPage, header, headerText, String.toList_ofList]
  congr 2
  cases links with
  | nil => decide
  | cons link more =>
      rw [PyText.splitOn_join (by simp)]
      · generalize link :: more = all
        rw [nextOf, List.findSome?_map]
        induction all with
        | nil => rfl
        | cons first rest ih =>
            rw [List.findSome?_cons, Function.comp_apply, nextTarget_text]
            cases isNext : first.isNext with
            | true => simp [isNext]
            | false => simpa [isNext] using ih
      · intro part found
        obtain ⟨inner, -, rfl⟩ := List.mem_map.mp found
        exact inner.comma_notMem_text

/-! ### Every page -/

/-- A page of the tag list: its URL, the links of its header and its tags. -/
structure Page where
  url : String
  links : List Link
  tags : List String

section Listings

variable (join : String → String → String) (py : Builtins) (base : String) (web : Web)

/-- The registry answers with the page. -/
def Answers (page : Page) : Prop :=
  ∃ answer fields, web page.url = .ok answer ∧
    linkText answer.headers = headerText page.links ∧
    py.loads answer.body = some (.obj fields) ∧
    (PyDict.get fields "tags" = some (.arr (page.tags.map Json.str)) ∨
      page.tags = [] ∧ (PyDict.get fields "tags").getD .null = .null)

/-- The link to a page: its target, resolved against the URL it was read at. -/
def LinksTo (page next : Page) : Prop :=
  ∃ target, nextOf page.links = some target ∧ join page.url (String.ofList target) = next.url

/-- No link to another page, or a link that repeats an earlier one. -/
def Ends (pages : List Page) (last : Page) : Prop :=
  nextOf last.links = none ∨ ∃ earlier ∈ pages, LinksTo join last earlier

/-- The registry answers with the pages, from the one at `start` on. -/
structure Listing (start : String) (pages : List Page) : Prop where
  first : pages.head?.map Page.url = some start
  answers : ∀ page ∈ pages, Answers py web page
  linked : pages.IsChain (LinksTo join)
  distinct : (pages.map Page.url).Nodup
  ends : ∀ last, pages.getLast? = some last → Ends join pages last

/-- Each target is a path of the registry: behind its scheme and host, it is the URL that
the link names. -/
def Hosted (pages : List Page) : Prop :=
  ∀ page ∈ pages, ∀ target, nextOf page.links = some target →
    join page.url (String.ofList target) = base ++ String.ofList target

variable {join py base web}

theorem pageTags_of_answers {tags : List String} {fields : PyDict String Json}
    (listed : PyDict.get fields "tags" = some (.arr (tags.map Json.str)) ∨
      tags = [] ∧ (PyDict.get fields "tags").getD .null = .null) :
    pageTags py (.obj fields) = .ok tags := by
  rcases listed with found | ⟨rfl, absent⟩
  · cases tags with
    | nil => simp [pageTags, found, Json.truthy]
    | cons tag more => simp [pageTags, found, Json.truthy, Json.toText, Function.comp_def]
  · cases found : PyDict.get fields "tags" with
    | none => simp [pageTags, found]
    | some value =>
        rw [found, Option.getD_some] at absent
        simp [pageTags, found, absent, Json.truthy]

theorem listPages_page {page : Page} (answers : Answers py web page) {path : String}
    (here : page.url = base ++ path) {seen : List String}
    (given : path ≠ "") (unseen : path ∉ seen) (fuel : Nat) (tags : List String) :
    listPages py base web (fuel + 1) path seen tags =
      listPages py base web fuel (String.ofList ((nextOf page.links).getD [])) (path :: seen)
        (tags ++ page.tags) := by
  obtain ⟨answer, fields, answered, header, loaded, listed⟩ := answers
  rw [here] at answered
  rw [listPages, if_neg (by simp [given, unseen]), get, answered]
  simp only [loaded, pageTags_of_answers listed, nextPage_eq header]

theorem target_ne_empty {links : List Link} {target : List Char}
    (next : nextOf links = some target) : String.ofList target ≠ "" := by
  obtain ⟨link, -, rfl⟩ := Option.map_eq_some_iff.mp next
  intro empty
  apply link.target_ne_nil
  simpa using congrArg String.toList empty

theorem append_inj {first second : String} (same : base ++ first = base ++ second) :
    first = second := by
  have texts := congrArg String.toList same
  rw [String.toList_append, String.toList_append] at texts
  exact String.toList_inj.mp (List.append_cancel_left texts)

/-- A page that comes after the pages seen is not among them, and joins them. -/
theorem seen_page {done todo : List Page} {page : Page} {path : String}
    (here : page.url = base ++ path) {seen : List String}
    (distinct : ((done ++ page :: todo).map Page.url).Nodup)
    (isSeen : ∀ other, other ∈ seen ↔ base ++ other ∈ done.map Page.url) :
    path ∉ seen ∧
      ∀ other, other ∈ path :: seen ↔ base ++ other ∈ (done ++ [page]).map Page.url := by
  constructor
  · rw [isSeen, ← here]
    rw [List.map_append, List.map_cons, List.nodup_append] at distinct
    exact fun found => distinct.2.2 _ found _ List.mem_cons_self rfl
  · intro other
    have same : base ++ other = base ++ path ↔ other = path :=
      ⟨append_inj, fun equal => equal ▸ rfl⟩
    rw [List.mem_cons, isSeen, List.map_append, List.mem_append, List.map_cons, List.map_nil,
      List.mem_singleton, here, same, or_comm]

/-- The pages that are left are read to the end. -/
theorem listPages_pages (done todo : List Page) {page : Page} {path : String}
    (here : page.url = base ++ path)
    (answers : ∀ other ∈ page :: todo, Answers py web other)
    (hosted : Hosted join base (page :: todo))
    (linked : (page :: todo).IsChain (LinksTo join))
    (distinct : ((done ++ page :: todo).map Page.url).Nodup)
    (ends : ∀ last, (page :: todo).getLast? = some last → Ends join (done ++ page :: todo) last)
    (given : path ≠ "") (seen : List String)
    (isSeen : ∀ other, other ∈ seen ↔ base ++ other ∈ done.map Page.url) {fuel : Nat}
    (enough : todo.length + 1 < fuel) (tags : List String) :
    listPages py base web fuel path seen tags =
      some (.ok (tags ++ (page :: todo).flatMap Page.tags)) := by
  induction todo generalizing done page path seen fuel tags with
  | nil =>
      obtain ⟨unseen, seenAfter⟩ := seen_page here distinct isSeen
      obtain ⟨more, rfl⟩ : ∃ more, fuel = more + 2 := ⟨fuel - 2, by simp at enough; omega⟩
      rw [listPages_page (answers page List.mem_cons_self) here given unseen, listPages, if_pos]
      · simp
      · rcases ends page rfl with none | ⟨earlier, member, target, found, same⟩
        · left
          rw [none]
          rfl
        · right
          rw [found, Option.getD_some, seenAfter,
            ← hosted page List.mem_cons_self target found, same]
          exact List.mem_map_of_mem member
  | cons next more ih =>
      obtain ⟨unseen, seenAfter⟩ := seen_page here distinct isSeen
      obtain ⟨⟨target, found, same⟩, rest⟩ := List.isChain_cons_cons.mp linked
      obtain ⟨less, rfl⟩ : ∃ less, fuel = less + 1 := ⟨fuel - 1, by omega⟩
      have whole : (done ++ [page]) ++ next :: more = done ++ page :: next :: more := by
        simp
      have there : next.url = base ++ String.ofList target := by
        rw [← same, hosted page List.mem_cons_self target found]
      rw [listPages_page (answers page List.mem_cons_self) here given unseen, found,
        Option.getD_some, ih (done ++ [page]) there]
      · simp
      · exact fun other member => answers other (List.mem_cons_of_mem _ member)
      · exact fun other member => hosted other (List.mem_cons_of_mem _ member)
      · exact rest
      · rwa [whole]
      · intro last isLast
        rw [whole]
        apply ends
        rwa [List.getLast?_cons_cons]
      · exact target_ne_empty found
      · exact seenAfter
      · simp only [List.length_cons] at enough
        omega

/-- `list_tags` finds the tags of every page. -/
theorem listTags_eq {path : List Char} {pages : List Page}
    (listing : Listing join py web (base ++ firstPage path) pages)
    (hosted : Hosted join base pages) {fuel : Nat} (enough : pages.length < fuel) :
    listTags py base web fuel path = some (.ok (pages.flatMap Page.tags)) := by
  cases pages with
  | nil => cases listing.first
  | cons page todo =>
      have start : page.url = base ++ firstPage path := by
        simpa using listing.first
      have given : firstPage path ≠ "" := by
        rw [firstPage]
        intro empty
        simpa using congrArg String.toList empty
      have read := listPages_pages [] todo start listing.answers hosted listing.linked
        listing.distinct listing.ends given [] (by simp) (by simpa using enough) []
      rw [listTags, read, List.nil_append]

end Listings

/-! ### The highest release -/

section Highest

variable (digits : DecimalDigits)

/-- `[v]X.Y.Z`, with the numbers it stands for. -/
def HasForm (text : List Char) (numbers : Numbers) : Prop :=
  ∃ (prefixed : Bool) (major minor patch : List Char),
    text = (if prefixed then ['v'] else []) ++ (major ++ '.' :: (minor ++ '.' :: patch)) ∧
    IsNumber digits major ∧ IsNumber digits minor ∧ IsNumber digits patch ∧
    numbers = toLex (numberValue digits major,
      toLex (numberValue digits minor, numberValue digits patch))

/-- The numbers of a tag of the form, as large as they are. -/
def releaseNumbers (text : List Char) : Option Numbers :=
  (releaseGroups digits text).map fun (major, minor, patch) =>
    toLex (numberValue digits major, toLex (numberValue digits minor, numberValue digits patch))

/-- The higher of the best tag so far and this one. -/
def higher (best : Option (String × Numbers)) (tag : String) : Option (String × Numbers) :=
  match releaseNumbers digits (PyText.strip tag).toList with
  | none => best
  | some key =>
      match best with
      | none => some (PyText.strip tag, key)
      | some (name, bestKey) => if bestKey < key then some (PyText.strip tag, key) else
          some (name, bestKey)

/-- `int` reads the numbers of a tag of the form. -/
def ReadsTag (tag : String) : Prop :=
  ∀ major minor patch,
    releaseGroups digits (PyText.strip tag).toList = some (major, minor, patch) →
      major.length ≤ maxStrDigits ∧ minor.length ≤ maxStrDigits ∧ patch.length ≤ maxStrDigits

/-- A release tag, blanks around it aside. -/
def IsRelease (tag : String) (numbers : Numbers) : Prop :=
  HasForm digits (PyText.strip tag).toList numbers

/-- The best tag so far: of the form, and not below any other. -/
def IsBest (tags : List String) : Option (String × Numbers) → Prop
  | none => ∀ tag ∈ tags, ∀ numbers, ¬ IsRelease digits tag numbers
  | some (name, best) => ∃ tag ∈ tags, name = PyText.strip tag ∧ IsRelease digits tag best ∧
      ∀ other ∈ tags, ∀ numbers, IsRelease digits other numbers → numbers ≤ best

variable {digits}

theorem number_before_dot {run : List Char} (isNumber : IsNumber digits run) (rest : List Char) :
    number digits (run ++ '.' :: rest) = some (run, '.' :: rest) := by
  apply number_append digits isNumber
  intro character starts
  obtain rfl : '.' = character := by simpa using starts
  exact value_of_other digits (by decide) (by decide)

theorem afterV_prefixed (prefixed : Bool) {run : List Char} (isNumber : IsNumber digits run)
    (rest : List Char) :
    afterV ((if prefixed then ['v'] else []) ++ (run ++ rest)) = run ++ rest := by
  cases prefixed with
  | true => rfl
  | false =>
      cases run with
      | nil => exact absurd rfl isNumber.1
      | cons first others =>
          have notV : first ≠ 'v' := by
            rintro rfl
            have isDigit := isNumber.2 'v' List.mem_cons_self
            rw [value_of_other digits (by decide) (by decide)] at isDigit
            cases isDigit
          simp only [Bool.false_eq_true, if_false, List.nil_append, List.cons_append]
          unfold afterV
          split
          · rename_i same
            exact absurd (List.cons.inj same).1 notV
          · rfl

theorem releaseNumbers_of_form {text : List Char} {numbers : Numbers}
    (form : HasForm digits text numbers) : releaseNumbers digits text = some numbers := by
  obtain ⟨prefixed, major, minor, patch, rfl, isMajor, isMinor, isPatch, rfl⟩ := form
  have last := number_append digits isPatch (show ∀ character,
    ([] : List Char).head? = some character → digits.value character = none by simp)
  rw [List.append_nil] at last
  rw [releaseNumbers, releaseGroups, afterV_prefixed prefixed isMajor, number_before_dot isMajor]
  simp only [Option.bind_eq_bind, Option.bind_some, dot]
  rw [number_before_dot isMinor]
  simp only [Option.bind_some]
  rw [last]
  rfl

theorem dot_eq_some {text rest : List Char} (found : dot text = some rest) :
    text = '.' :: rest := by
  unfold dot at found
  split at found
  · rw [Option.some.inj found]
  · cases found

theorem afterV_eq (text : List Char) :
    ∃ prefixed : Bool, text = (if prefixed then ['v'] else []) ++ afterV text := by
  unfold afterV
  split
  · exact ⟨true, rfl⟩
  · exact ⟨false, rfl⟩

/-- A text with no newline at its end matches where it has the form. -/
theorem form_of_releaseNumbers {text : List Char} {numbers : Numbers}
    (ended : text.getLast? ≠ some '\n') (found : releaseNumbers digits text = some numbers) :
    HasForm digits text numbers := by
  obtain ⟨prefixed, shape⟩ := afterV_eq text
  obtain ⟨⟨major, minor, patch⟩, groups, rfl⟩ := Option.map_eq_some_iff.mp found
  simp only [releaseGroups, Option.bind_eq_bind, Option.bind_eq_some_iff] at groups
  obtain ⟨⟨majorRun, first⟩, readMajor, second, firstDot, ⟨minorRun, third⟩, readMinor,
    fourth, secondDot, ⟨patchRun, rest⟩, readPatch, final⟩ := groups
  obtain ⟨majorShape, isMajor⟩ := number_eq_some digits readMajor
  obtain ⟨rfl, isMinor⟩ := number_eq_some digits readMinor
  obtain ⟨rfl, isPatch⟩ := number_eq_some digits readPatch
  have firstShape : first = '.' :: (minorRun ++ third) := dot_eq_some firstDot
  have secondShape : third = '.' :: (patchRun ++ rest) := dot_eq_some secondDot
  have whole : text = (if prefixed then ['v'] else []) ++
      (majorRun ++ '.' :: (minorRun ++ '.' :: (patchRun ++ rest))) := by
    rw [← secondShape, ← firstShape, ← majorShape]
    exact shape
  split at final
  · rename_i isEnd
    have restEmpty : rest = [] := by
      simp only [atEnd, Bool.or_eq_true, decide_eq_true_eq] at isEnd
      rcases isEnd with empty | newline
      · exact empty
      · exfalso
        apply ended
        have newlineLast : text = ((if prefixed then ['v'] else []) ++
            (majorRun ++ '.' :: (minorRun ++ '.' :: patchRun))) ++ ['\n'] := by
          rw [whole, newline]
          simp
        rw [newlineLast, List.getLast?_concat]
    rw [restEmpty, List.append_nil] at whole
    simp only [Option.some.injEq, Prod.mk.injEq] at final
    obtain ⟨rfl, rfl, rfl⟩ := final
    exact ⟨prefixed, majorRun, minorRun, patchRun, whole, isMajor, isMinor, isPatch, rfl⟩
  · cases final

theorem releaseNumbers_strip_iff {tag : String} {numbers : Numbers} :
    releaseNumbers digits (PyText.strip tag).toList = some numbers ↔
      IsRelease digits tag numbers := by
  constructor
  · apply form_of_releaseNumbers
    intro newline
    rw [PyText.strip, String.toList_ofList] at newline
    have solid := PyText.last_stripChars newline
    exact absurd solid (by decide)
  · exact releaseNumbers_of_form

theorem release_unique {tag : String} {first second : Numbers}
    (one : IsRelease digits tag first) (two : IsRelease digits tag second) : first = second := by
  rw [← releaseNumbers_strip_iff] at one two
  exact Option.some.inj (one.symm.trans two)

theorem isBest_higher {tags : List String} {best : Option (String × Numbers)}
    (isBest : IsBest digits tags best) (tag : String) :
    IsBest digits (tags ++ [tag]) (higher digits best tag) := by
  have last (other : String) : other ∈ tags ++ [tag] ↔ other ∈ tags ∨ other = tag := by
    simp
  unfold higher
  cases read : releaseNumbers digits (PyText.strip tag).toList with
  | none =>
      have noRelease : ∀ numbers, ¬ IsRelease digits tag numbers := by
        intro numbers isRelease
        rw [releaseNumbers_strip_iff.mpr isRelease] at read
        cases read
      cases best with
      | none =>
          intro other member numbers
          rcases (last other).mp member with old | rfl
          · exact isBest other old numbers
          · exact noRelease numbers
      | some found =>
          obtain ⟨chosen, member, name, release, highest⟩ := isBest
          use chosen, (last chosen).mpr (Or.inl member), name, release
          intro other inside numbers isRelease
          rcases (last other).mp inside with old | rfl
          · exact highest other old numbers isRelease
          · exact absurd isRelease (noRelease numbers)
  | some key =>
      have release : IsRelease digits tag key := releaseNumbers_strip_iff.mp read
      have isKey : ∀ numbers, IsRelease digits tag numbers → numbers ≤ key :=
        fun numbers isRelease => (release_unique isRelease release).le
      cases best with
      | none =>
          use tag, (last tag).mpr (Or.inr rfl), rfl, release
          intro other inside numbers isRelease
          rcases (last other).mp inside with old | rfl
          · exact absurd isRelease (isBest other old numbers)
          · exact isKey numbers isRelease
      | some found =>
          obtain ⟨name, bestKey⟩ := found
          obtain ⟨chosen, member, isName, chosenRelease, highest⟩ := isBest
          simp only
          split
          · rename_i greater
            use tag, (last tag).mpr (Or.inr rfl), rfl, release
            intro other inside numbers isRelease
            rcases (last other).mp inside with old | rfl
            · exact (highest other old numbers isRelease).trans greater.le
            · exact isKey numbers isRelease
          · rename_i notGreater
            use chosen, (last chosen).mpr (Or.inl member), isName, chosenRelease
            intro other inside numbers isRelease
            rcases (last other).mp inside with old | rfl
            · exact highest other old numbers isRelease
            · exact (isKey numbers isRelease).trans (not_lt.mp notGreater)

/-- The loop of `newest_release` keeps the best tag. -/
theorem isBest_foldl {done : List String} {best : Option (String × Numbers)}
    (isBest : IsBest digits done best) (todo : List String) :
    IsBest digits (done ++ todo) (todo.foldl (higher digits) best) := by
  induction todo generalizing done best with
  | nil =>
      rw [List.append_nil]
      exact isBest
  | cons tag more ih =>
      have next := ih (isBest_higher isBest tag)
      rwa [List.append_assoc, List.singleton_append] at next

theorem release_ne_empty {tag : String} {numbers : Numbers}
    (isRelease : IsRelease digits tag numbers) : PyText.strip tag ≠ "" := by
  obtain ⟨prefixed, major, minor, patch, shape, -⟩ := isRelease
  intro empty
  rw [empty] at shape
  simp at shape

theorem newer_reads {tag : String} (reads : ReadsTag digits tag)
    (best : Option (String × Numbers)) : newer digits best tag = .ok (higher digits best tag) := by
  unfold newer higher releaseNumbers
  cases groups : releaseGroups digits (PyText.strip tag).toList with
  | none => rfl
  | some parts =>
      obtain ⟨major, minor, patch⟩ := parts
      obtain ⟨majorShort, minorShort, patchShort⟩ := reads major minor patch groups
      simp only [intOf_short digits majorShort, intOf_short digits minorShort,
        intOf_short digits patchShort]
      cases best with
      | none => rfl
      | some found => rfl

theorem newer_fails {tag : String} (fails : ¬ ReadsTag digits tag)
    (best : Option (String × Numbers)) : ∃ error, newer digits best tag = .error error := by
  unfold ReadsTag at fails
  push Not at fails
  obtain ⟨major, minor, patch, groups, long⟩ := fails
  unfold newer
  rw [groups]
  by_cases majorShort : major.length ≤ maxStrDigits
  · by_cases minorShort : minor.length ≤ maxStrDigits
    · obtain ⟨error, failed⟩ :=
        intOf_long digits (Nat.not_le.mpr (long majorShort minorShort))
      simp only [intOf_short digits majorShort, intOf_short digits minorShort, failed]
      exact ⟨error, rfl⟩
    · obtain ⟨error, failed⟩ := intOf_long digits minorShort
      simp only [intOf_short digits majorShort, failed]
      exact ⟨error, rfl⟩
  · obtain ⟨error, failed⟩ := intOf_long digits majorShort
    simp only [failed]
    exact ⟨error, rfl⟩

/-- A tag with a number too long is of the form. -/
theorem release_of_not_reads {tag : String} (fails : ¬ ReadsTag digits tag) :
    ∃ numbers, IsRelease digits tag numbers := by
  unfold ReadsTag at fails
  push Not at fails
  obtain ⟨major, minor, patch, groups, -⟩ := fails
  exact ⟨_, releaseNumbers_strip_iff.mp (by rw [releaseNumbers, groups]; rfl)⟩

theorem foldlM_newer (tags : List String) (reads : ∀ tag ∈ tags, ReadsTag digits tag)
    (best : Option (String × Numbers)) :
    tags.foldlM (newer digits) best = .ok (tags.foldl (higher digits) best) := by
  induction tags generalizing best with
  | nil => rfl
  | cons tag more ih =>
      rw [List.foldlM_cons, newer_reads (reads tag List.mem_cons_self), List.foldl_cons]
      exact ih (fun other member => reads other (List.mem_cons_of_mem _ member)) _

theorem foldlM_newer_fails (tags : List String) (fails : ∃ tag ∈ tags, ¬ ReadsTag digits tag)
    (best : Option (String × Numbers)) :
    ∃ error, tags.foldlM (newer digits) best = .error error := by
  induction tags generalizing best with
  | nil => simp at fails
  | cons tag more ih =>
      rw [List.foldlM_cons]
      by_cases reads : ReadsTag digits tag
      · rw [newer_reads reads]
        obtain ⟨other, member, isLong⟩ := fails
        rcases List.mem_cons.mp member with rfl | later
        · exact absurd reads isLong
        · exact ih ⟨other, later, isLong⟩ _
      · obtain ⟨error, failed⟩ := newer_fails reads best
        rw [failed]
        exact ⟨error, rfl⟩

/-- `newest_release` names a highest release, or nothing where there is none. -/
theorem newestRelease_spec {tags : List String} (reads : ∀ tag ∈ tags, ReadsTag digits tag) :
    newestRelease digits tags = .ok "" ∧
        (∀ tag ∈ tags, ∀ numbers, ¬ IsRelease digits tag numbers) ∨
      ∃ tag ∈ tags, ∃ best, PyText.strip tag ≠ "" ∧
        newestRelease digits tags = .ok (PyText.strip tag) ∧ IsRelease digits tag best ∧
        ∀ other ∈ tags, ∀ numbers, IsRelease digits other numbers → numbers ≤ best := by
  have start : IsBest digits [] none := by
    intro tag member
    cases member
  have isBest := isBest_foldl start tags
  rw [List.nil_append] at isBest
  unfold newestRelease
  rw [foldlM_newer tags reads]
  cases found : tags.foldl (higher digits) none with
  | none =>
      rw [found] at isBest
      exact Or.inl ⟨rfl, isBest⟩
  | some result =>
      rw [found] at isBest
      obtain ⟨tag, member, name, release, highest⟩ := isBest
      right
      refine ⟨tag, member, result.2, release_ne_empty release, ?_, release, highest⟩
      rw [← name]
      rfl

end Highest

/-! ### The newest release of a listing -/

section Newest

variable (digits : DecimalDigits)

/-- What `latest_release` makes of the tags of every page. -/
structure Newest (repository : String) (tags : List String) (result : Except Failure String) :
    Prop where
  raises : (∃ failure, result = .error failure) ↔
    ∀ tag ∈ tags, ∀ numbers, ¬ IsRelease digits tag numbers
  highest : ∀ image, result = .ok image → ∃ tag ∈ tags, ∃ best,
    image = repository ++ ":" ++ PyText.strip tag ∧ IsRelease digits tag best ∧
    ∀ other ∈ tags, ∀ numbers, IsRelease digits other numbers → numbers ≤ best
  /-- Nothing chosen has a pre-release or a build. -/
  plain : ∀ version, result = .ok (repository ++ ":" ++ version) →
    '-' ∉ version.toList ∧ '+' ∉ version.toList

/-- Both raise, or both name a version with the same numbers. -/
def SameNumbers (repository : String) (first second : Except Failure String) : Prop :=
  ((∃ failure, first = .error failure) ∧ ∃ failure, second = .error failure) ∨
    ∃ one two numbers, first = .ok (repository ++ ":" ++ one) ∧
      second = .ok (repository ++ ":" ++ two) ∧
      HasForm digits one.toList numbers ∧ HasForm digits two.toList numbers

variable {digits}

theorem form_plain {text : List Char} {numbers : Numbers} (form : HasForm digits text numbers) :
    '-' ∉ text ∧ '+' ∉ text := by
  obtain ⟨prefixed, major, minor, patch, rfl, isMajor, isMinor, isPatch, -⟩ := form
  have absent {run : List Char} (isNumber : IsNumber digits run) {character : Char}
      (none : digits.value character = none) : character ∉ run := by
    intro found
    have isDigit := isNumber.2 character found
    rw [none] at isDigit
    cases isDigit
  have dash : digits.value '-' = none := value_of_other digits (by decide) (by decide)
  have plus : digits.value '+' = none := value_of_other digits (by decide) (by decide)
  cases prefixed with
  | true =>
      simp [absent isMajor dash, absent isMinor dash, absent isPatch dash, absent isMajor plus,
        absent isMinor plus, absent isPatch plus]
  | false =>
      simp [absent isMajor dash, absent isMinor dash, absent isPatch dash, absent isMajor plus,
        absent isMinor plus, absent isPatch plus]

/-- What `latest_release` makes of the tags. -/
def released (digits : DecimalDigits) (repository : String) (tags : List String) :
    Except Failure String :=
  match newestRelease digits tags with
  | .error error => .error (.python error)
  | .ok version =>
      if version = "" then .error (.fetch (repository ++ " publishes no vX.Y.Z tag"))
      else .ok (repository ++ ":" ++ version)

theorem newest_of_tags (repository : String) {tags : List String}
    (reads : ∀ tag ∈ tags, ReadsTag digits tag) :
    Newest digits repository tags (released digits repository tags) := by
  unfold released
  rcases newestRelease_spec reads with
    ⟨empty, noRelease⟩ | ⟨tag, member, best, nonempty, name, release, highest⟩
  · rw [empty]
    constructor
    · exact ⟨fun _ => noRelease, fun _ => ⟨_, rfl⟩⟩
    · intro image result
      cases result
    · intro version result
      cases result
  · rw [name]
    simp only [if_neg nonempty]
    constructor
    · constructor
      · rintro ⟨failure, result⟩
        cases result
      · intro noRelease
        exact absurd release (noRelease tag member best)
    · intro image result
      rw [← Except.ok.inj result]
      exact ⟨tag, member, best, rfl, release, highest⟩
    · intro version result
      have same : PyText.strip tag = version := by
        simpa using Except.ok.inj result
      rw [← same]
      exact form_plain release

/-- A number that `int` does not read stops the listing, though there is a release. -/
theorem reads_of_newest {repository : String} {tags : List String}
    (newest : Newest digits repository tags (released digits repository tags)) :
    ∀ tag ∈ tags, ReadsTag digits tag := by
  intro tag member
  by_contra fails
  obtain ⟨error, failed⟩ := foldlM_newer_fails tags ⟨tag, member, fails⟩ none
  obtain ⟨numbers, release⟩ := release_of_not_reads fails
  apply newest.raises.mp _ tag member numbers release
  refine ⟨.python error, ?_⟩
  rw [released, newestRelease, failed]
  rfl

/-- The numbers chosen depend on which tags there are, and on nothing else. -/
theorem sameNumbers_of_tags {repository : String} {tags others : List String}
    (same : ∀ tag, tag ∈ others ↔ tag ∈ tags) {first second : Except Failure String}
    (one : Newest digits repository tags first) (two : Newest digits repository others second) :
    SameNumbers digits repository first second := by
  cases first with
  | error failure =>
      have none := one.raises.mp ⟨failure, rfl⟩
      exact Or.inl ⟨⟨failure, rfl⟩, two.raises.mpr fun tag member => none tag ((same tag).mp member)⟩
  | ok image =>
      obtain ⟨tag, member, best, rfl, release, highest⟩ := one.highest image rfl
      cases second with
      | error failure =>
          have none := two.raises.mp ⟨failure, rfl⟩
          exact absurd release (none tag ((same tag).mpr member) best)
      | ok image' =>
          obtain ⟨tag', member', best', rfl, release', highest'⟩ := two.highest image' rfl
          have equal : best' = best := by
            apply le_antisymm
            · exact highest tag' ((same tag').mp member') best' release'
            · exact highest' tag ((same tag).mpr member) best release
          rw [equal] at release'
          exact Or.inr ⟨_, _, best, rfl, rfl, release, release'⟩

theorem latestRelease_eq {join : String → String → String} {py : Builtins} {base : String}
    {web : Web} {repository : String} {host path : List Char}
    (named : splitRepository repository = .ok (host, path)) {pages : List Page}
    (listing : Listing join py web (base ++ firstPage path) pages)
    (hosted : Hosted join base pages) {fuel : Nat} (enough : pages.length < fuel) :
    latestRelease py digits base web fuel repository =
      some (released digits repository (pages.flatMap Page.tags)) := by
  rw [latestRelease, named]
  simp only
  rw [listTags_eq listing hosted enough]
  rfl

/-- The newest release is found on every page, wherever the pages end. -/
def FindsNewest (digits : DecimalDigits) (join : String → String → String) (py : Builtins)
    (base : String) (web : Web) (repository : String) (path : List Char) (pages : List Page) :
    Prop :=
  ∃ result, (∀ fuel, pages.length < fuel →
      latestRelease py digits base web fuel repository = some result) ∧
    Newest digits repository (pages.flatMap Page.tags) result ∧
    ∀ (other : Web) (otherPages : List Page),
      Listing join py other (base ++ firstPage path) otherPages → Hosted join base otherPages →
      (∀ tag, tag ∈ otherPages.flatMap Page.tags ↔ tag ∈ pages.flatMap Page.tags) →
      ∃ otherResult, (∀ fuel, otherPages.length < fuel →
          latestRelease py digits base other fuel repository = some otherResult) ∧
        SameNumbers digits repository result otherResult

/-- A number that `int` does not read hides every release. -/
theorem reads_of_findsNewest {join : String → String → String} {py : Builtins} {base : String}
    {web : Web} {repository : String} {host path : List Char}
    (named : splitRepository repository = .ok (host, path)) {pages : List Page}
    (listing : Listing join py web (base ++ firstPage path) pages)
    (hosted : Hosted join base pages)
    (finds : FindsNewest digits join py base web repository path pages) :
    ∀ tag ∈ pages.flatMap Page.tags, ReadsTag digits tag := by
  obtain ⟨result, ran, newest, -⟩ := finds
  have same : result = released digits repository (pages.flatMap Page.tags) :=
    Option.some.inj ((ran _ (Nat.lt_succ_self pages.length)).symm.trans
      (latestRelease_eq named listing hosted (Nat.lt_succ_self pages.length)))
  rw [same] at newest
  exact reads_of_newest newest

end Newest

/-! ### A listing of two pages -/

def nextLink : Link where
  lead := []
  target := "/v2/catenahq/catena-admin/tags/list?n=100&last=v1.9.0".toList
  parameters := "; rel=\"next\"".toList
  lead_blank := by simp
  target_ne_nil := by decide
  target_free := by simp
  parameters_free := by decide

def samplePages : List Page :=
  [⟨"https://ghcr.io/v2/catenahq/catena-admin/tags/list?n=100", [nextLink],
      ["v1.10.0-rc1", "v1.9.0"]⟩,
    ⟨"https://ghcr.io/v2/catenahq/catena-admin/tags/list?n=100&last=v1.9.0", [], ["v1.10.0"]⟩]

/-- Reads the two bodies. -/
def sampleBuiltins : Builtins where
  repr _ := ""
  loads body :=
    if body = "first" then some (.obj [("tags", .arr [.str "v1.10.0-rc1", .str "v1.9.0"])])
    else some (.obj [("tags", .arr [.str "v1.10.0"])])

def sampleWeb : Web := fun url =>
  if url = "https://ghcr.io/v2/catenahq/catena-admin/tags/list?n=100" then
    .ok ⟨[("Link", headerText [nextLink])], "first"⟩
  else .ok ⟨[], "second"⟩

/-- Where a path leads from a page of the registry. -/
def sampleJoin (_ target : String) : String :=
  "https://ghcr.io" ++ target

theorem sample_listing : Listing sampleJoin sampleBuiltins sampleWeb
    ("https://ghcr.io" ++ firstPage "catenahq/catena-admin".toList) samplePages := by
  constructor
  · decide
  · intro page member
    simp only [samplePages, List.mem_cons, List.not_mem_nil, or_false] at member
    rcases member with rfl | rfl
    · refine ⟨_, _, rfl, ?_, rfl, Or.inl rfl⟩
      decide
    · exact ⟨_, _, rfl, rfl, rfl, Or.inl rfl⟩
  · constructor
    · exact ⟨nextLink.target, by decide, by decide⟩
    · exact List.isChain_singleton _
  · decide
  · intro last isLast
    simp only [samplePages, List.getLast?_cons_cons, List.getLast?_singleton,
      Option.some.injEq] at isLast
    left
    rw [← isLast]
    rfl

theorem sample_reads : ∀ tag ∈ samplePages.flatMap Page.tags, ReadsTag asciiDigits tag := by
  intro tag member major minor patch groups
  simp only [samplePages, List.flatMap_cons, List.flatMap_nil, List.append_nil, List.cons_append,
    List.nil_append, List.mem_cons, List.not_mem_nil, or_false] at member
  rcases member with rfl | rfl | rfl
  · simp [show releaseGroups asciiDigits (PyText.strip "v1.10.0-rc1").toList = none by decide]
      at groups
  · obtain ⟨rfl, rfl, rfl⟩ : ['1'] = major ∧ ['9'] = minor ∧ ['0'] = patch := by
      simpa [show releaseGroups asciiDigits (PyText.strip "v1.9.0").toList =
        some (['1'], ['9'], ['0']) by decide] using groups
    decide
  · obtain ⟨rfl, rfl, rfl⟩ : ['1'] = major ∧ ['1', '0'] = minor ∧ ['0'] = patch := by
      simpa [show releaseGroups asciiDigits (PyText.strip "v1.10.0").toList =
        some (['1'], ['1', '0'], ['0']) by decide] using groups
    decide

/-- A tag of the form whose first number has `digits` digits. -/
def ninesTag (digits : Nat) : String :=
  String.ofList (List.replicate digits '9' ++ ".0.0".toList)

def ninesPage (digits : Nat) : Page :=
  ⟨"https://ghcr.io/v2/catenahq/catena-admin/tags/list?n=100", [], ["v1.0.0", ninesTag digits]⟩

def ninesBuiltins (digits : Nat) : Builtins where
  repr _ := ""
  loads _ := some (.obj [("tags", .arr [.str "v1.0.0", .str (ninesTag digits)])])

theorem ninesPage_listing (digits : Nat) :
    Listing sampleJoin (ninesBuiltins digits) (fun _ => .ok ⟨[], ""⟩)
      ("https://ghcr.io" ++ firstPage "catenahq/catena-admin".toList) [ninesPage digits] where
  first := sample_listing.first
  answers page member := by
    obtain rfl := List.mem_singleton.mp member
    exact ⟨_, _, rfl, rfl, rfl, Or.inl rfl⟩
  linked := List.isChain_singleton _
  distinct := List.nodup_singleton _
  ends last isLast := by
    obtain rfl : ninesPage digits = last := by simpa using isLast
    exact Or.inl rfl

theorem strip_ninesTag {digits : Nat} (some : 0 < digits) :
    (PyText.strip (ninesTag digits)).toList = List.replicate digits '9' ++ ".0.0".toList := by
  obtain ⟨rest, rfl⟩ := Nat.exists_eq_succ_of_ne_zero some.ne'
  rw [ninesTag, PyText.strip, String.toList_ofList, String.toList_ofList,
    PyText.stripChars_of_ends]
  · intro character starts
    obtain rfl : '9' = character := by
      rw [List.replicate_succ] at starts
      simpa using starts
    decide
  · intro character ends
    obtain rfl : '0' = character := by
      rw [List.getLast?_append] at ends
      simpa using ends
    decide

theorem groups_ninesTag {digits : Nat} (some : 0 < digits) :
    releaseGroups asciiDigits (PyText.strip (ninesTag digits)).toList =
      .some (List.replicate digits '9', ['0'], ['0']) := by
  have nines : IsNumber asciiDigits (List.replicate digits '9') := by
    refine ⟨by simpa using some.ne', fun character member => ?_⟩
    rw [List.eq_of_mem_replicate member]
    decide
  have plain := afterV_prefixed false nines ('.' :: "0.0".toList)
  simp only [Bool.false_eq_true, if_false, List.nil_append] at plain
  rw [strip_ninesTag some, releaseGroups, show ".0.0".toList = '.' :: "0.0".toList by decide,
    plain, number_before_dot nines]
  rfl

end LatestRelease

end Catena
