import SourceCatalog.Json.Refusal
import SourceCatalog.Text.Digits

/-!
# Reading the strings of a JSON document

A string is read one character at a time, each written plainly or as an escape. A character
beyond the basic plane may be written as two escapes, a leading and a trailing surrogate.
-/

namespace SourceCatalog.Json

/-- The number written by four hexadecimal digits, and the text after them. -/
def fourDigits? (text : Text) : Option (Nat × Text) :=
  if (text.take 4).length = 4 then
    (Text.numeral? 16 (text.take 4)).map fun code => (code, text.drop 4)
  else
    none

/-- Read four hexadecimal digits. Four bytes are taken before they are looked at. -/
def readUnit (text : Text) : Outcome Nat :=
  match fourDigits? text with
  | some found => .ok found
  | none =>
    if Text.byteLength (text.take 4) < 4 then .error (.here .endInString [])
    else .error ⟨.invalidEscape, text, 4⟩

/-- A code that stands in front of another one for one character. -/
def isLeading (code : Nat) : Bool := 0xD800 ≤ code && code < 0xDC00

/-- A code that stands behind another one for one character. -/
def isTrailing (code : Nat) : Bool := 0xDC00 ≤ code && code < 0xE000

def paired (leading trailing : Nat) : Char :=
  Char.ofNat (0x10000 + (leading - 0xD800) * 0x400 + (trailing - 0xDC00))

/-- Read the rest of an escape after `\u`. -/
def readCode (text : Text) : Outcome Char :=
  match readUnit text with
  | .error refusal => .error refusal
  | .ok (code, after) =>
    if isTrailing code then .error (.here .loneSurrogate after)
    else if !isLeading code then .ok (Char.ofNat code, after)
    else
      match after with
      | '\\' :: 'u' :: second =>
        match readUnit second with
        | .error refusal => .error refusal
        | .ok (trailing, after) =>
          if isTrailing trailing then .ok (paired code trailing, after)
          else .error (.here .loneSurrogate after)
      | '\\' :: other =>
        if other.isEmpty then .error (.here .endInString [])
        else .error (.next .endInSurrogates other)
      | [] => .error (.here .endInString [])
      | other => .error (.next .endInSurrogates other)

def shortEscapes : List (Char × Char) :=
  [('"', '"'), ('\\', '\\'), ('/', '/'), ('b', '\x08'), ('f', '\x0c'), ('n', '\n'),
    ('r', '\r'), ('t', '\t')]

/-- Read the rest of an escape after the backslash. -/
def readEscape : Text → Outcome Char
  | [] => .error (.here .endInString [])
  | head :: tail =>
    if head = 'u' then
      readCode tail
    else
      match shortEscapes.lookup head with
      | some meant => .ok (meant, tail)
      | none => .error (.next .invalidEscape (head :: tail))

def readCharacter : Text → Outcome (Option Char)
  | [] => .error (.here .endInString [])
  | '"' :: tail => .ok (none, tail)
  | '\\' :: tail => (readEscape tail).map fun (read, after) => (some read, after)
  | head :: tail =>
    if head.toNat < 0x20 then .error (.next .controlCharacter (head :: tail))
    else .ok (some head, tail)

theorem length_fourDigits? {text after : Text} {code : Nat}
    (read : fourDigits? text = some (code, after)) : after.length < text.length := by
  unfold fourDigits? at read
  split at read
  · next four =>
    simp only [Option.map_eq_some_iff, Prod.mk.injEq] at read
    obtain ⟨_, _, _, rfl⟩ := read
    simp only [List.length_take, List.length_drop] at four ⊢
    omega
  · simp at read

theorem length_readUnit {text after : Text} {code : Nat}
    (read : readUnit text = .ok (code, after)) : after.length < text.length := by
  unfold readUnit at read
  split at read
  · next found =>
    cases read
    exact length_fourDigits? found
  · split at read <;> simp at read

theorem length_readCode {text after : Text} {read : Char}
    (found : readCode text = .ok (read, after)) : after.length < text.length := by
  unfold readCode at found
  split at found
  · simp at found
  · next first =>
    have firstShorter := length_readUnit first
    split at found
    · simp at found
    · split at found
      · cases found
        exact firstShorter
      · split at found
        · split at found
          · simp at found
          · next second =>
            have := length_readUnit second
            split at found
            · simp only [Except.ok.injEq, Prod.mk.injEq] at found
              obtain ⟨_, rfl⟩ := found
              simp only [List.length_cons] at firstShorter
              omega
            · simp at found
        · split at found <;> simp at found
        · simp at found
        · simp at found

theorem length_readEscape {text after : Text} {read : Char}
    (found : readEscape text = .ok (read, after)) : after.length < text.length := by
  unfold readEscape at found
  split at found
  · simp at found
  · split at found
    · have := length_readCode found
      simp only [List.length_cons]
      omega
    · split at found
      · cases found
        simp
      · simp at found

theorem length_readCharacter {text after : Text} {read : Option Char}
    (found : readCharacter text = .ok (read, after)) : after.length < text.length := by
  unfold readCharacter at found
  split at found
  · simp at found
  · cases found
    simp
  · next tail =>
    cases escape : readEscape tail with
    | error refusal => simp [escape, Except.map] at found
    | ok result =>
      obtain ⟨character, rest⟩ := result
      have := length_readEscape escape
      simp only [escape, Except.map, Except.ok.injEq, Prod.mk.injEq] at found
      obtain ⟨_, rfl⟩ := found
      simp only [List.length_cons]
      omega
  · split at found
    · simp at found
    · cases found
      simp

def readString (text : Text) : Outcome Text :=
  match _ : readCharacter text with
  | .error refusal => .error refusal
  | .ok (none, after) => .ok ([], after)
  | .ok (some read, after) =>
    match readString after with
    | .error refusal => .error refusal
    | .ok (content, rest) => .ok (read :: content, rest)
termination_by text.length
decreasing_by exact length_readCharacter (by assumption)

theorem length_readString {text after content : Text}
    (found : readString text = .ok (content, after)) : after.length < text.length := by
  fun_induction readString text generalizing content with
  | case1 => simp at found
  | case2 text rest last =>
    cases found
    exact length_readCharacter last
  | case3 => simp_all
  | case4 text read middle head inner rest shorter tail =>
    cases found
    have := length_readCharacter head
    have := tail shorter
    omega

end SourceCatalog.Json
