/-!
# UTF-8

Writing a text as bytes, and reading bytes as text. A text is refused at the first place where no
character can be read, with the cause and the number of bytes that were taken for the start of a
character.
-/

namespace ImportLint.Text.Utf8

/-- The UTF-8 encoding of a text. -/
def encode (s : List Char) : List UInt8 := s.flatMap String.utf8EncodeChar

@[simp] theorem encode_nil : encode [] = [] := rfl

@[simp] theorem encode_cons (c : Char) (s : List Char) :
    encode (c :: s) = String.utf8EncodeChar c ++ encode s := rfl

@[simp] theorem encode_append (s t : List Char) : encode (s ++ t) = encode s ++ encode t :=
  List.flatMap_append

/-- Why no character can be read. -/
inductive Cause
  /-- The byte starts no character. -/
  | badStart
  /-- A byte that should continue a character does not. -/
  | badContinuation
  /-- The bytes end inside a character. -/
  | unfinished
  deriving DecidableEq, Repr

/-- The place of a refusal: the bytes before it, the bytes taken for a character, and the cause. -/
structure Refusal where
  offset : Nat
  width : Nat
  cause : Cause
  deriving DecidableEq, Repr

/-- What the first bytes of a non-empty text are. -/
inductive Step
  | char (c : Char) (width : Nat) (rest : List UInt8)
  | refused (width : Nat) (cause : Cause)

/-- The six bits that a continuation byte carries. -/
def low6 (b : UInt8) : Nat := b.toNat % 64

/-- Whether a byte lies between two others. -/
def between (lo hi b : UInt8) : Bool := decide (lo ≤ b) && decide (b ≤ hi)

/-- Whether a byte continues a character. -/
def isContinuation (b : UInt8) : Bool := between 0x80 0xBF b

/-- Whether `b` may be the second byte of a character that starts with `lead`. Over-long forms, the
surrogates and what lies above the last code point are excluded here. -/
def isSecond (lead b : UInt8) : Bool :=
  if lead = 0xE0 then between 0xA0 0xBF b
  else if lead = 0xED then between 0x80 0x9F b
  else if lead = 0xF0 then between 0x90 0xBF b
  else if lead = 0xF4 then between 0x80 0x8F b
  else isContinuation b

/-- Reads the first character of the bytes `b :: rest`. -/
def step (b : UInt8) (rest : List UInt8) : Step :=
  if b < 0x80 then .char (Char.ofNat b.toNat) 1 rest
  else if b < 0xC2 then .refused 1 .badStart
  else if b < 0xE0 then
    match rest with
    | [] => .refused 1 .unfinished
    | b₁ :: r =>
      if isContinuation b₁ then .char (Char.ofNat (b.toNat % 32 * 64 + low6 b₁)) 2 r
      else .refused 1 .badContinuation
  else if b < 0xF0 then
    match rest with
    | [] => .refused 1 .unfinished
    | b₁ :: r =>
      if isSecond b b₁ then
        match r with
        | [] => .refused 2 .unfinished
        | b₂ :: r =>
          if isContinuation b₂ then
            .char (Char.ofNat (b.toNat % 16 * 4096 + low6 b₁ * 64 + low6 b₂)) 3 r
          else .refused 2 .badContinuation
      else .refused 1 .badContinuation
  else if b < 0xF5 then
    match rest with
    | [] => .refused 1 .unfinished
    | b₁ :: r =>
      if isSecond b b₁ then
        match r with
        | [] => .refused 2 .unfinished
        | b₂ :: r =>
          if isContinuation b₂ then
            match r with
            | [] => .refused 3 .unfinished
            | b₃ :: r =>
              if isContinuation b₃ then
                .char (Char.ofNat (b.toNat % 8 * 262144 + low6 b₁ * 4096 + low6 b₂ * 64 + low6 b₃))
                  4 r
              else .refused 3 .badContinuation
          else .refused 2 .badContinuation
      else .refused 1 .badContinuation
  else .refused 1 .badStart

/-- Reading a character leaves fewer bytes. -/
theorem length_of_step {b : UInt8} {rest r : List UInt8} {c : Char} {w : Nat}
    (h : step b rest = .char c w r) : r.length < (b :: rest).length := by
  unfold step at h
  repeat' split at h
  all_goals cases h
  all_goals
    simp only [List.length_cons]
    omega

/-- Reads bytes that follow `offset` others; `done` holds the characters read so far, last first. -/
def decodeFrom (offset : Nat) (done : List Char) (bytes : List UInt8) :
    Except Refusal (List Char) :=
  match bytes with
  | [] => .ok done.reverse
  | b :: rest =>
    match _h : step b rest with
    | .char c w r => decodeFrom (offset + w) (c :: done) r
    | .refused w cause => .error ⟨offset, w, cause⟩
termination_by bytes.length
decreasing_by exact length_of_step _h

/-- Reads bytes as text. -/
def decode (bytes : List UInt8) : Except Refusal (List Char) := decodeFrom 0 [] bytes

/-- The wording of a cause. -/
def Cause.message : Cause → String
  | .badStart => "invalid start byte"
  | .badContinuation => "invalid continuation byte"
  | .unfinished => "unexpected end of data"

end ImportLint.Text.Utf8
