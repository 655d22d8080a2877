import SourceCatalog.Json.NumberReader
import SourceCatalog.Json.StringReader

/-!
# Reading an object of strings

A document is one object whose members all have strings as values. Anything else is refused at
the first place where it can no longer be such an object.
-/

namespace SourceCatalog.Json

def readWord (word : Misfit) : Text → Text → Outcome Misfit
  | [], rest => .ok (word, rest)
  | _ :: _, [] => .error (.here .endInValue [])
  | expected :: others, head :: tail =>
    if head = expected then readWord word others tail
    else .error (.next .expectedWord (head :: tail))

/-- Read a value. Nothing inside a list or an object is looked at. -/
def readMisfit : Text → Outcome Misfit
  | '"' :: tail => (readString tail).map fun (content, rest) => (.string content, rest)
  | '-' :: tail => readNumber true tail
  | 'n' :: tail => readWord .null "ull".toList tail
  | 't' :: tail => readWord (.boolean true) "rue".toList tail
  | 'f' :: tail => readWord (.boolean false) "alse".toList tail
  | '[' :: tail => .ok (.sequence, '[' :: tail)
  | '{' :: tail => .ok (.map, '{' :: tail)
  | text =>
    if opensDigit text then readNumber false text
    else .error (.next .expectedValue text)

/-- Why a value is refused where something else is expected. -/
def refuseValue (expected : Text) (text : Text) : Refusal :=
  match readMisfit text with
  | .ok (found, rest) => .here (.misfit found expected) rest
  | .error refusal => refusal

def readStringValue : Text → Outcome Text
  | [] => .error (.here .endInValue [])
  | '"' :: tail => readString tail
  | text => .error (refuseValue "a string".toList text)

def readColon : Text → Except Refusal Text
  | [] => .error (.here .endInObject [])
  | ':' :: tail => .ok tail
  | text => .error (.next .expectedColon text)

def readMember (text : Text) : Outcome (Text × Text) :=
  match readString text with
  | .error refusal => .error refusal
  | .ok (key, afterKey) =>
    match readColon (skipSpace afterKey) with
    | .error refusal => .error refusal
    | .ok afterColon =>
      match readStringValue (skipSpace afterColon) with
      | .error refusal => .error refusal
      | .ok (value, rest) => .ok ((key, value), rest)

def readNextKey : Text → Except Refusal Text
  | [] => .error (.here .endInValue [])
  | '"' :: tail => .ok tail
  | '}' :: tail => .error (.next .trailingComma ('}' :: tail))
  | text => .error (.next .keyNotString text)

/-- Read what follows a member: the end of the object, or whether another key opens. -/
def readMore : Text → Outcome Bool
  | [] => .error (.here .endInObject [])
  | '}' :: tail => .ok (false, tail)
  | ',' :: tail => (readNextKey (skipSpace tail)).map fun rest => (true, rest)
  | text => .error (.next .expectedCommaOrEnd text)

theorem length_readColon {text after : Text}
    (read : readColon text = .ok after) : after.length < text.length := by
  unfold readColon at read
  split at read
  · simp at read
  · cases read
    simp
  · simp at read

theorem length_readStringValue {text after value : Text}
    (read : readStringValue text = .ok (value, after)) : after.length < text.length := by
  unfold readStringValue at read
  split at read
  · simp at read
  · have := length_readString read
    simp only [List.length_cons]
    omega
  · simp at read

theorem length_readMember {text after : Text} {pair : Text × Text}
    (read : readMember text = .ok (pair, after)) : after.length < text.length := by
  unfold readMember at read
  split at read
  · simp at read
  · next afterKey key =>
    split at read
    · simp at read
    · next afterColon colon =>
      split at read
      · simp at read
      · next rest value =>
        cases read
        have := length_readString key
        have := length_skipSpace_le afterKey
        have := length_readColon colon
        have := length_skipSpace_le afterColon
        have := length_readStringValue value
        omega

theorem length_readNextKey {text after : Text}
    (read : readNextKey text = .ok after) : after.length < text.length := by
  unfold readNextKey at read
  split at read
  · simp at read
  · cases read
    simp
  · simp at read
  · simp at read

theorem length_readMore {text after : Text} {more : Bool}
    (read : readMore text = .ok (more, after)) : after.length < text.length := by
  unfold readMore at read
  split at read
  · simp at read
  · cases read
    simp
  · next tail =>
    cases key : readNextKey (skipSpace tail) with
    | error refusal => simp [key, Except.map] at read
    | ok rest =>
      have := length_readNextKey key
      have := length_skipSpace_le tail
      simp only [key, Except.map, Except.ok.injEq, Prod.mk.injEq] at read
      obtain ⟨_, rfl⟩ := read
      simp only [List.length_cons]
      omega
  · simp at read

/-- Read the members of an object after the opening quote of its first key, up to its end. -/
def readMembers (text : Text) : Outcome (List (Text × Text)) :=
  match _ : readMember text with
  | .error refusal => .error refusal
  | .ok (pair, afterMember) =>
    match _ : readMore (skipSpace afterMember) with
    | .error refusal => .error refusal
    | .ok (false, rest) => .ok ([pair], rest)
    | .ok (true, afterQuote) =>
      match readMembers afterQuote with
      | .error refusal => .error refusal
      | .ok (others, rest) => .ok (pair :: others, rest)
termination_by text.length
decreasing_by
  have := length_readMember (by assumption)
  have := length_skipSpace_le afterMember
  have := length_readMore (by assumption)
  omega

def readFirst : Text → Outcome (List (Text × Text))
  | [] => .error (.here .endInObject [])
  | '}' :: tail => .ok ([], tail)
  | '"' :: tail => readMembers tail
  | text => .error (.next .keyNotString text)

def readObject : Text → Outcome (List (Text × Text))
  | [] => .error (.here .endInValue [])
  | '{' :: tail => readFirst (skipSpace tail)
  | text => .error (refuseValue "a map".toList text)

/-- The members of the object that a whole document consists of, in order. -/
def stringMembers (document : Text) : Except Refusal (List (Text × Text)) :=
  match readObject (skipSpace document) with
  | .error refusal => .error refusal
  | .ok (members, rest) =>
    let trailing := skipSpace rest
    if trailing.isEmpty then .ok members else .error (.next .trailingCharacters trailing)

end SourceCatalog.Json
