import Companion.Directive
import Companion.Directive.Error
import Companion.Text.Alphabetic
import Companion.Text.Blank
import Companion.Text.Numeric
import Companion.Text.Size

/-! Reading directives out of prose. A directive starts at the beginning of a word, with a name, an
opening parenthesis, and then either the closing parenthesis or the name of a first argument with
its equals sign (`atMarker`). Everything else is prose and skipped. Where a directive starts it has
to be read to its end: what follows a marker is a directive or an error. -/
namespace Companion.Directive

/-! ### Names -/

def isNameStart (c : Char) : Bool := Text.isAlphabetic c || c == '_'

def isNameContinue (c : Char) : Bool :=
  Text.isAlphabetic c || Text.isNumeric c || c == '_' || c == '-'

/-- The longest name at the start of the text, and the rest. -/
def readName : List Char → Option (List Char × List Char)
  | [] => none
  | c :: cs =>
    if isNameStart c then some (c :: cs.takeWhile isNameContinue, cs.dropWhile isNameContinue)
    else none

theorem length_readName {cs name rest : List Char} (h : readName cs = some (name, rest)) :
    rest.length < cs.length := by
  cases cs with
  | nil => simp [readName] at h
  | cons c cs =>
    simp only [readName] at h
    split at h
    · obtain ⟨rfl, rfl⟩ := Prod.mk.inj (Option.some.inj h)
      exact Nat.lt_succ_of_le (List.dropWhile_sublist isNameContinue).length_le
    · simp at h

/-! ### Markers -/

/-- The four characters that may stand between the parts of a marker. -/
def isMarkerSpace (c : Char) : Bool := c == ' ' || c == '\t' || c == '\r' || c == '\n'

/-- Whether what follows an opening parenthesis makes the name before it a directive's. -/
def opensArguments (cs : List Char) : Bool :=
  match cs.dropWhile isMarkerSpace with
  | ')' :: _ => true
  | cs =>
    match readName cs with
    | some (_, rest) =>
      match rest.dropWhile isMarkerSpace with
      | '=' :: _ => true
      | _ => false
    | none => false

/-- Whether a directive starts here. -/
def atMarker (cs : List Char) : Bool :=
  match readName cs with
  | some (_, '(' :: rest) => opensArguments rest
  | _ => false

/-! ### Values and arguments -/

/-- Why reading stopped, with the text from that place on. -/
inductive Fault where
  | missing (expected : Expected) (rest : List Char)
  | unterminated (rest : List Char)

/-- The characters of an unquoted value. -/
def isBare (c : Char) : Bool :=
  !(Text.isBlank c || c == ',' || c == '(' || c == ')' || c == '=' || c == '"')

/-- A quoted text, or an unquoted token, which may be empty. -/
def readValue (cs : List Char) : Except Fault (Scalar × List Char) :=
  match cs with
  | '"' :: body =>
    match Text.readPlain body with
    | some (s, rest) => .ok (.text (String.ofList s), rest)
    | none =>
      if Text.closesQuote body then .error (.missing .validEscapes cs)
      else .error (.unterminated cs)
  | cs => .ok (Scalar.classify (cs.takeWhile isBare), cs.dropWhile isBare)

/-- A name, an equals sign and a value, with blanks between them. -/
def readArgument (cs : List Char) : Except Fault (Argument × List Char) :=
  match readName cs with
  | none => .error (.missing .argumentName cs)
  | some (name, rest) =>
    match Text.skipBlanks rest with
    | '=' :: rest =>
      match readValue (Text.skipBlanks rest) with
      | .ok (value, rest) => .ok (⟨String.ofList name, value⟩, rest)
      | .error fault => .error fault
    | rest => .error (.missing .equals rest)

theorem length_readValue {cs : List Char} {value : Scalar} {rest : List Char}
    (h : readValue cs = .ok (value, rest)) : rest.length ≤ cs.length := by
  unfold readValue at h
  split at h
  · next body =>
    split at h
    · next s rest' hs =>
      obtain ⟨rfl, rfl⟩ := Prod.mk.inj (Except.ok.inj h)
      have := Text.length_readPlain hs
      simp only [List.length_cons]
      omega
    · split at h <;> simp at h
  · obtain ⟨rfl, rfl⟩ := Prod.mk.inj (Except.ok.inj h)
    exact (List.dropWhile_sublist isBare).length_le

theorem length_readArgument {cs : List Char} {a : Argument} {rest : List Char}
    (h : readArgument cs = .ok (a, rest)) : rest.length < cs.length := by
  unfold readArgument at h
  split at h
  · simp at h
  · next name afterName hname =>
    have hn := length_readName hname
    have hb := Text.length_skipBlanks_le afterName
    split at h
    · next afterEquals heq =>
      rw [heq] at hb
      simp only [List.length_cons] at hb
      split at h
      · next value rest' hv =>
        obtain ⟨rfl, rfl⟩ := Prod.mk.inj (Except.ok.inj h)
        have hr := length_readValue hv
        have hb' := Text.length_skipBlanks_le afterEquals
        omega
      · simp at h
    · simp at h

/-- The arguments up to the closing parenthesis, and the text behind it. A comma may follow the last
argument. -/
def readArguments (cs : List Char) : Except Fault (List Argument × List Char) :=
  match Text.skipBlanks cs with
  | ')' :: rest => .ok ([], rest)
  | _ =>
    match _ha : readArgument (Text.skipBlanks cs) with
    | .error fault => .error fault
    | .ok (a, rest) =>
      match _hr : Text.skipBlanks rest with
      | ',' :: rest' =>
        match readArguments rest' with
        | .ok (as, rest'') => .ok (a :: as, rest'')
        | .error fault => .error fault
      | ')' :: rest' => .ok ([a], rest')
      | rest' => .error (.missing .separator rest')
termination_by cs.length
decreasing_by
  have h1 := Text.length_skipBlanks_le cs
  have h2 := length_readArgument _ha
  have h3 := Text.length_skipBlanks_le rest
  rw [_hr] at h3
  simp only [List.length_cons] at h3
  omega

theorem length_readArguments {cs : List Char} {as : List Argument} {rest : List Char}
    (h : readArguments cs = .ok (as, rest)) : rest.length < cs.length := by
  fun_induction readArguments cs generalizing as rest with
  | case1 cs tail hcs =>
    obtain ⟨rfl, rfl⟩ := Prod.mk.inj (Except.ok.inj h)
    have := Text.length_skipBlanks_le cs
    rw [hcs] at this
    exact this
  | case2 => simp at h
  | case3 cs a rest' ha tail hr as' rest'' hrec _ ih =>
    obtain ⟨rfl, rfl⟩ := Prod.mk.inj (Except.ok.inj h)
    have h1 := Text.length_skipBlanks_le cs
    have h2 := length_readArgument ha
    have h3 := Text.length_skipBlanks_le rest'
    have h4 := ih hrec
    rw [hr] at h3
    simp only [List.length_cons] at h3
    omega
  | case4 => simp at h
  | case5 cs a rest' ha tail hr _ =>
    obtain ⟨rfl, rfl⟩ := Prod.mk.inj (Except.ok.inj h)
    have h1 := Text.length_skipBlanks_le cs
    have h2 := length_readArgument ha
    have h3 := Text.length_skipBlanks_le rest'
    rw [hr] at h3
    simp only [List.length_cons] at h3
    omega
  | case6 => simp at h

/-! ### Directives -/

/-- A fault, with the name of the directive in which it lies. -/
structure Failure where
  directive : String
  fault : Fault

/-- The directive at the start of the text, and the rest. -/
def read (cs : List Char) : Except Failure (Directive × List Char) :=
  match readName cs with
  | none => .error ⟨"", .missing .directiveName cs⟩
  | some (name, '(' :: rest) =>
    match readArguments rest with
    | .ok (as, rest) => .ok (⟨String.ofList name, as⟩, rest)
    | .error fault => .error ⟨String.ofList name, fault⟩
  | some (name, rest) => .error ⟨String.ofList name, .missing .openParenthesis rest⟩

theorem length_read {cs : List Char} {d : Directive} {rest : List Char}
    (h : read cs = .ok (d, rest)) : rest.length < cs.length := by
  unfold read at h
  split at h
  · simp at h
  · next name tail hname =>
    have hn := length_readName hname
    simp only [List.length_cons] at hn
    split at h
    · next as rest' ha =>
      obtain ⟨rfl, rfl⟩ := Prod.mk.inj (Except.ok.inj h)
      have := length_readArguments ha
      omega
    · simp at h
  · simp at h

/-- The directives of a text, in order. `inWord` says that the character before the text continues a
name, so that no word starts here. -/
def scanFrom (inWord : Bool) (cs : List Char) : Except Failure (List Directive) :=
  match cs with
  | [] => .ok []
  | c :: rest =>
    if !inWord && isNameStart c && atMarker (c :: rest) then
      match _h : read (c :: rest) with
      | .error failure => .error failure
      | .ok (d, rest') =>
        match scanFrom false rest' with
        | .ok ds => .ok (d :: ds)
        | .error failure => .error failure
    else scanFrom (isNameContinue c) rest
termination_by cs.length
decreasing_by
  · exact length_read _h
  · simp

/-! ### Texts -/

/-- How many characters of the text an error shows. -/
def shownLength : Nat := 16

/-- The failure as an error of the whole text, with its place counted from the start. -/
def ReadError.ofFailure (text : List Char) : Failure → ReadError
  | ⟨directive, .missing _ []⟩ => .unexpectedEnd directive
  | ⟨directive, .missing expected rest⟩ =>
    .malformed directive (Text.byteSize text - Text.byteSize rest) expected
      (String.ofList (rest.take shownLength))
  | ⟨directive, .unterminated rest⟩ =>
    .unterminatedString directive (Text.byteSize text - Text.byteSize rest)

/-- All directives of a text, in order; or the first error. -/
def scan (text : String) : Except ReadError (List Directive) :=
  (scanFrom false text.toList).mapError (ReadError.ofFailure text.toList)

/-- The first directive of a text, if it has one. All of the text is read. -/
def scanFirst (text : String) : Except ReadError (Option Directive) :=
  (scan text).map List.head?

end Companion.Directive
