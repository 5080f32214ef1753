import JsonQuery.Proofs.CompiledQueries
import JsonQuery.Proofs.Respacing

/-! # Spellings of segments

A name that needs no quotes may stand behind dots or, with quotes, in brackets, and so may a star.
Behind a dot a word is a name whatever it spells elsewhere, and the characters of such a name are
plain between quotes of either kind; hence the ways to write a segment cannot be told apart once it
is compiled.
-/

namespace JsonQuery

open Token JsonQuery.Parser Text

/-- A name that may stand behind dots without quotes. -/
structure ShortName where
  first : Char
  more : List Char
  isFirst : isNameFirst first = true
  isName : ∀ c ∈ more, isNameChar c = true

def ShortName.text (name : ShortName) : String := String.ofList (name.first :: name.more)

/-- What a segment asks for: the member of a name, or all items and members. -/
inductive Pick where
  | member (name : ShortName)
  | all

def Pick.text : Pick → String
  | .member name => name.text
  | .all => "*"

def Pick.term : Pick → Term
  | .member name => .name name.text
  | .all => .wildcard

/-- A segment that looks among the children of a node, or among all nodes below it. -/
structure Segment where
  descends : Bool
  pick : Pick

def Segment.term (segment : Segment) : Term :=
  if segment.descends then .descendant (.ofTerm segment.pick.term) else segment.pick.term

/-- What stands for a name or a star between brackets. The characters of a name may be written as
    they are, or in any other way that a string has for them. -/
inductive Pick.InBrackets : Pick → String → Prop where
  | single (name : ShortName) : InBrackets (.member name) ("'" ++ name.text ++ "'")
  | double (name : ShortName) : InBrackets (.member name) ("\"" ++ name.text ++ "\"")
  | escaped {name : ShortName} {quote : Char} {body : List Char}
      (isQuote : quote = '"' ∨ quote = '\'') (spelling : Spelling quote body name.text.toList) :
      InBrackets (.member name) (String.ofList (quote :: (body ++ [quote])))
  | star : InBrackets .all "*"

/-- The ways to write a segment. -/
inductive Segment.Written : Segment → String → Prop where
  | dot (pick : Pick) : Written ⟨false, pick⟩ ("." ++ pick.text)
  | dots (pick : Pick) : Written ⟨true, pick⟩ (".." ++ pick.text)
  | bracket {pick : Pick} {inside : String} (isInside : pick.InBrackets inside) :
      Written ⟨false, pick⟩ ("[" ++ inside ++ "]")
  | dotsBracket {pick : Pick} {inside : String} (isInside : pick.InBrackets inside) :
      Written ⟨true, pick⟩ ("..[" ++ inside ++ "]")

/-- The ways to write a row of segments, each of them in a way of its own. -/
inductive Segment.AllWritten : List Segment → String → Prop where
  | nil : AllWritten [] ""
  | cons {segment : Segment} {segments : List Segment} {text more : String}
      (first : segment.Written text) (rest : AllWritten segments more) :
      AllWritten (segment :: segments) (text ++ more)

/-- A text in front of which a name ends. -/
def endsName (rest : List Char) : Prop := ∀ c, rest.head? = some c → isNameChar c = false

/-! ## Names and stars -/

namespace ShortName

variable (name : ShortName)

theorem toList_text : name.text.toList = name.first :: name.more := String.toList_ofList

theorem isNameChar_of_mem {c : Char} (member : c ∈ name.text.toList) : isNameChar c = true := by
  rw [toList_text] at member
  rcases List.mem_cons.mp member with rfl | member
  · exact isNameChar_of_isNameFirst name.isFirst
  · exact name.isName c member

end ShortName

theorem not_control_of_isNameChar {c : Char} (isName : isNameChar c = true) : ¬c < ' ' := by
  intro control
  obtain ⟨code, small, rfl⟩ := exists_code_of_control control
  clear control
  revert isName
  interval_cases code <;> decide

/-- No character of a name has a meaning between quotes. -/
theorem spelling_of_isNameChar {quote : Char} (isQuote : quote = '"' ∨ quote = '\'')
    {name : List Char} (isName : ∀ c ∈ name, isNameChar c = true) : Spelling quote name name := by
  have notName : isNameChar quote = false := by rcases isQuote with rfl | rfl <;> decide
  have notName' : isNameChar '\\' = false := by decide
  induction name with
  | nil => exact .nil
  | cons c rest ih =>
      obtain ⟨isChar, isRest⟩ := List.forall_mem_cons.mp isName
      have notQuote : c ≠ quote := by
        rintro rfl
        exact absurd isChar (ne_true_of_eq_false notName)
      have notEscape : c ≠ '\\' := by
        rintro rfl
        exact absurd isChar (ne_true_of_eq_false notName')
      have item : Item quote [c] c := .plain notQuote notEscape (not_control_of_isNameChar isChar)
      exact .cons item (ih isRest)

namespace Pick

/-- A name or a star is one token behind dots, and the name is no keyword or function there. -/
theorem exists_lexeme (pick : Pick) {previous : Kind}
    (dotted : previous = .dot ∨ previous = .doubleDot) {rest : List Char} (ends : endsName rest) :
    ∃ kind, (kind = .identifier ∨ kind = .star) ∧
      Lexeme (some previous) rest pick.text.toList kind none ∧
      ∀ span, Shorthand ⟨kind, pick.text, none, span⟩ pick.term := by
  cases pick with
  | member name =>
      refine ⟨.identifier, .inl rfl, ?_, fun _ => .name rfl (denotes_text _)⟩
      rw [Pick.text, name.toList_text]
      exact .word name.isFirst name.isName ends (.member (by simpa using dotted))
  | all => exact ⟨.star, .inr rfl, .sign rfl, fun _ => .star rfl⟩

/-- Neither a dot nor a blank begins what stands behind dots. -/
theorem exists_first (pick : Pick) (rest : List Char) :
    ∃ c, (pick.text.toList ++ rest).head? = some c ∧ c ≠ '.' ∧ isBlank c = false := by
  cases pick with
  | member name =>
      refine ⟨name.first, by rw [Pick.text, name.toList_text]; rfl, ?_, ?_⟩
      · intro isDot
        exact absurd (isDot ▸ name.isFirst) (by decide)
      · exact not_isBlank_of_isNameChar (isNameChar_of_isNameFirst name.isFirst)
  | all => exact ⟨'*', rfl, by decide, rfl⟩

theorem last (pick : Pick) {c : Char} (last : pick.text.toList.getLast? = some c) :
    isBlank c = false := by
  cases pick with
  | member name =>
      exact not_isBlank_of_isNameChar (name.isNameChar_of_mem (List.mem_of_getLast? last))
  | all =>
      obtain rfl : '*' = c := Option.some.inj last
      rfl

theorem spells_dotted (pick : Pick) (dots : List Char) {kind : Kind}
    (dotted : kind = .dot ∨ kind = .doubleDot)
    (isDots : ∀ c rest, rest.head? = some c → c ≠ '.' → isBlank c = false →
      Lexeme none rest dots kind none) :
    Spells endsName (dots ++ pick.text.toList) fun ts =>
      ∃ dot t, ts = [dot, t] ∧ dot.kind = kind ∧ Shorthand t pick.term := by
  intro offset rest ends
  -- How the dots are read hangs on the character behind them, how the word is read on the dots.
  obtain ⟨kind', free, lexeme, shorthand⟩ := pick.exists_lexeme dotted ends
  obtain ⟨c, first, notDot, notBlank⟩ := pick.exists_first rest
  have notNumber : kind ≠ .number ∧ kind' ≠ .number := by
    rcases dotted with rfl | rfl <;> rcases free with rfl | rfl <;> decide
  have notDots : kind' ≠ .dot ∧ kind' ≠ .doubleDot := by rcases free with rfl | rfl <;> decide
  have readDots := (isDots c _ first notDot notBlank).tokensFrom_append
    (fun isNumber => absurd isNumber notNumber.1) offset
  have readPick := lexeme.tokensFrom_append (fun isNumber => absurd isNumber notNumber.2)
    (offset + dots.length)
  rw [String.ofList_toList, tokensFrom_of_not_dot notDots.1 notDots.2] at readPick
  refine ⟨_, ⟨⟨kind, String.ofList dots, none, ⟨offset, dots.length⟩⟩, _, rfl, rfl,
    shorthand ⟨offset + dots.length, pick.text.toList.length⟩⟩, ?_⟩
  rw [List.append_assoc, readDots, readPick, List.length_append, ← Nat.add_assoc]
  cases tokensFrom none (offset + dots.length + pick.text.toList.length) rest <;> rfl

theorem spells_string {quote : Char} {body : List Char} {name : ShortName}
    (isQuote : quote = '"' ∨ quote = '\'') (spelling : Spelling quote body name.text.toList) :
    Spells delimiter (quote :: (body ++ [quote])) fun ts =>
      Derives .selector ts (Pick.member name).term := by
  refine (Lexeme.spells (fun rest _ => .string isQuote spelling) nofun (by decide)
    (by decide)).mono (fun _ follows => follows) ?_
  rintro _ ⟨span, rfl⟩
  rw [String.ofList_toList]
  exact .name rfl (denotes_text _)

theorem prints_inBrackets {pick : Pick} {inside : String} (isInside : pick.InBrackets inside) :
    Prints delimiter inside .selector pick.term := by
  cases isInside with
  | single name =>
      have spells := spells_string (.inr rfl)
        (spelling_of_isNameChar (.inr rfl) fun _ => name.isNameChar_of_mem)
      simpa [Prints] using spells
  | double name =>
      have spells := spells_string (.inl rfl)
        (spelling_of_isNameChar (.inl rfl) fun _ => name.isNameChar_of_mem)
      simpa [Prints] using spells
  | escaped isQuote spelling =>
      rw [Prints, String.toList_ofList]
      exact spells_string isQuote spelling
  | star => exact .wildcard

end Pick

/-! ## Segments -/

namespace Segment

/-- A segment in front of others, which begin with a sign that ends a name. -/
theorem Written.prints {segment : Segment} {text more : String} {links : List Term}
    (written : segment.Written text) (isMore : Prints endsName more .segments links)
    (apart : ∀ rest, endsName rest → endsName (more.toList ++ rest)) :
    Prints endsName (text ++ more) .segments (segment.term :: links) := by
  cases written with
  | dot pick =>
      have dotted := pick.spells_dotted ['.'] (.inl rfl) fun c rest first notDot notBlank =>
        .dot (by simpa [first] using notDot) (by simpa [first] using notBlank)
      have same : ("." ++ pick.text ++ more).toList = ['.'] ++ pick.text.toList ++ more.toList := by
        simp
      rw [Prints, same]
      refine dotted.append isMore apart ?_
      rintro _ us ⟨dot, t, rfl, kind, shorthand⟩ derives
      exact .child kind shorthand derives
  | dots pick =>
      have dotted := pick.spells_dotted ['.', '.'] (.inr rfl)
        fun c rest first notDot notBlank => .dots (by simpa [first] using notBlank)
      have same : (".." ++ pick.text ++ more).toList =
          ['.', '.'] ++ pick.text.toList ++ more.toList := by simp
      rw [Prints, same]
      refine dotted.append isMore apart ?_
      rintro _ us ⟨dots, t, rfl, kind, shorthand⟩ derives
      exact .descendant kind shorthand derives
  | bracket isInside => exact (Pick.prints_inBrackets isInside).oneSelector.bracket.children isMore
  | dotsBracket isInside =>
      have bracket := (Pick.prints_inBrackets isInside).oneSelector.bracket
      rw [String.append_assoc] at bracket
      have descends := bracket.descendants isMore
      rwa [← String.append_assoc] at descends

theorem AllWritten.endsName {segments : List Segment} {text : String}
    (written : AllWritten segments text) {rest : List Char} (ends : JsonQuery.endsName rest) :
    JsonQuery.endsName (text.toList ++ rest) := by
  cases written with
  | nil => simpa using ends
  | cons first more =>
      cases first <;> simp [JsonQuery.endsName] <;> decide

theorem AllWritten.prints {segments : List Segment} {text : String}
    (written : AllWritten segments text) :
    Prints JsonQuery.endsName text .segments (segments.map term) := by
  induction written with
  | nil => exact Spells.nil .noSegments
  | cons first more ih => exact first.prints ih fun _ => more.endsName

theorem Written.last {segment : Segment} {text : String} (written : segment.Written text) {c : Char}
    (last : text.toList.getLast? = some c) : isBlank c = false := by
  cases written with
  | dot pick | dots pick =>
      rw [String.toList_append, List.getLast?_append, Option.or_eq_some_iff] at last
      rcases last with last | ⟨-, ⟨⟩⟩
      · exact pick.last last
      · rfl
  | bracket isInside | dotsBracket isInside =>
      rw [String.toList_append, List.getLast?_append] at last
      obtain rfl : ']' = c := Option.some.inj last
      rfl

theorem AllWritten.last {segments : List Segment} {text : String}
    (written : AllWritten segments text) {c : Char} (last : text.toList.getLast? = some c) :
    isBlank c = false := by
  induction written with
  | nil => simp at last
  | cons first more ih =>
      rw [String.toList_append, List.getLast?_append, Option.or_eq_some_iff] at last
      rcases last with last | ⟨-, last⟩
      · exact ih last
      · exact first.last last

end Segment

/-- However they are written, segments that ask for names and for everything are compiled to the same
    chain: the name or the star of each of them in its order, behind two dots within a descendant
    segment. -/
theorem Query.compile_written {segments : List Segment} {text : String}
    (written : Segment.AllWritten segments text) :
    Query.compile ("$" ++ text) = .ok ⟨segments.map Segment.term, "$" ++ text⟩ :=
  Query.compile_of_prints written.prints nofun fun _ => written.last

/-- A keyword and a function as names, letters beyond ASCII, quotes of both kinds and an escape. -/
theorem Query.compile_written_mixed :
    Query.compile "$.true..length['ünï'][\"_1\"]..[*].*..['\\u0061b']..*" =
      .ok ⟨[.name "true", .descendant (.ofTerm (.name "length")), .name "ünï", .name "_1",
          .descendant (.ofTerm .wildcard), .wildcard, .descendant (.ofTerm (.name "ab")),
          .descendant (.ofTerm .wildcard)],
        "$.true..length['ünï'][\"_1\"]..[*].*..['\\u0061b']..*"⟩ := by
  let keyword : ShortName := ⟨'t', ['r', 'u', 'e'], rfl, List.all_eq_true.mp rfl⟩
  let function : ShortName := ⟨'l', ['e', 'n', 'g', 't', 'h'], rfl, List.all_eq_true.mp rfl⟩
  let accented : ShortName := ⟨'ü', ['n', 'ï'], rfl, List.all_eq_true.mp rfl⟩
  let underscored : ShortName := ⟨'_', ['1'], rfl, List.all_eq_true.mp rfl⟩
  let plain : ShortName := ⟨'a', ['b'], rfl, List.all_eq_true.mp rfl⟩
  have letter : IsCodeUnit ['0', '0', '6', '1'] 0x61 := ⟨rfl, by decide⟩
  have spelling : Spelling '\'' ['\\', 'u', '0', '0', '6', '1', 'b'] plain.text.toList := by
    rw [plain.toList_text]
    have second : Item '\'' ['b'] 'b' := .plain (by decide) (by decide) (by decide)
    exact .cons (.code (.unit letter rfl rfl)) (.cons second .nil)
  have written := Segment.AllWritten.cons (.dot (.member keyword)) <|
    .cons (.dots (.member function)) <| .cons (.bracket (.single accented)) <|
    .cons (.bracket (.double underscored)) <| .cons (.dotsBracket .star) <| .cons (.dot .all) <|
    .cons (.dotsBracket (.escaped (.inr rfl) spelling)) <| .cons (.dots .all) .nil
  convert Query.compile_written written using 2
  · decide +kernel
  · congr 1

end JsonQuery
