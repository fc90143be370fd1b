import RepoAudit.Text.Basic

/-!
UTF-8. Strict decoding names the first bytes that belong to no character and why. File names are
decoded so that nothing is lost: a byte `b` that belongs to no character becomes the surrogate
`U+DC00 + b`, and encoding takes it back.
-/
namespace RepoAudit.Utf8

/-- Why bytes belong to no character. -/
inductive Reason where
  | invalidStart
  | invalidContinuation
  | unexpectedEnd
deriving DecidableEq, Repr

/-- The first bad bytes: the position of the first, their number, and its value. -/
structure Bad where
  start : Nat
  count : Nat
  byte : UInt8
  reason : Reason
deriving DecidableEq, Repr

def continues (b : UInt8) : Bool := 0x80 ≤ b && b < 0xC0

/-- Whether a byte may follow a given first byte. The second byte rules out overlong forms,
surrogates and numbers past the last code point. -/
def followsFirst (a b : UInt8) : Bool :=
  continues b && !(a == 0xE0 && b < 0xA0) && !(a == 0xED && 0xA0 ≤ b)
    && !(a == 0xF0 && b < 0x90) && !(a == 0xF4 && 0x90 ≤ b)

def bits (b : UInt8) : Nat := b.toNat - 0x80

/-- What the next bytes are: the end, a character and the bytes after it, or a number of bytes
that belong to no character. -/
inductive Next where
  | done
  | char (c : Char) (width : Nat) (rest : List UInt8)
  | bad (count : Nat) (reason : Reason)

def next : List UInt8 → Next
  | [] => .done
  | a :: rest =>
    if a < 0x80 then .char (Char.ofNat a.toNat) 1 rest
    else if a < 0xC2 || 0xF5 ≤ a then .bad 1 .invalidStart
    else if a < 0xE0 then match rest with
      | [] => .bad 1 .unexpectedEnd
      | b :: rest =>
        if continues b then .char (Char.ofNat ((a.toNat - 0xC0) * 0x40 + bits b)) 2 rest
        else .bad 1 .invalidContinuation
    else if a < 0xF0 then match rest with
      | [] => .bad 1 .unexpectedEnd
      | b :: rest =>
        if !followsFirst a b then .bad 1 .invalidContinuation
        else match rest with
          | [] => .bad 2 .unexpectedEnd
          | c :: rest =>
            if continues c then
              .char (Char.ofNat ((a.toNat - 0xE0) * 0x1000 + bits b * 0x40 + bits c)) 3 rest
            else .bad 2 .invalidContinuation
    else match rest with
      | [] => .bad 1 .unexpectedEnd
      | b :: rest =>
        if !followsFirst a b then .bad 1 .invalidContinuation
        else match rest with
          | [] => .bad 2 .unexpectedEnd
          | c :: rest =>
            if !continues c then .bad 2 .invalidContinuation
            else match rest with
              | [] => .bad 3 .unexpectedEnd
              | d :: rest =>
                if continues d then
                  .char (Char.ofNat ((a.toNat - 0xF0) * 0x40000 + bits b * 0x1000
                    + bits c * 0x40 + bits d)) 4 rest
                else .bad 3 .invalidContinuation

/-- What stands after a character is shorter than what was read. -/
theorem length_lt_of_next {bytes rest : List UInt8} {c : Char} {width : Nat}
    (h : next bytes = .char c width rest) : rest.length < bytes.length := by
  unfold next at h
  repeat' split at h
  all_goals first
    | (injection h with _ _ hRest; subst hRest; simp only [List.length_cons]; omega)
    | contradiction

/-- Strict decoding from a position. -/
def decodeFrom (position : Nat) (bytes : List UInt8) : Except Bad (List Char) :=
  match h : next bytes with
  | .done => .ok []
  | .bad count reason => .error ⟨position, count, bytes.headD 0, reason⟩
  | .char c width rest =>
    have := length_lt_of_next h
    (c :: ·) <$> decodeFrom (position + width) rest
termination_by bytes.length

def decode (bytes : List UInt8) : Except Bad (List Char) := decodeFrom 0 bytes

def encodeChar (c : Char) : List UInt8 :=
  let n := c.toNat
  if n < 0x80 then [n.toUInt8]
  else if n < 0x800 then [(0xC0 + n / 0x40).toUInt8, (0x80 + n % 0x40).toUInt8]
  else if n < 0x10000 then
    [(0xE0 + n / 0x1000).toUInt8, (0x80 + n / 0x40 % 0x40).toUInt8, (0x80 + n % 0x40).toUInt8]
  else
    [(0xF0 + n / 0x40000).toUInt8, (0x80 + n / 0x1000 % 0x40).toUInt8,
      (0x80 + n / 0x40 % 0x40).toUInt8, (0x80 + n % 0x40).toUInt8]

def encode (cs : List Char) : List UInt8 := cs.flatMap encodeChar

/-- The surrogate that stands for a byte of a file name. -/
def strayByte (b : UInt8) : CodePoint := CodePoint.ofNat (0xDC00 + b.toNat)

/-- Whether a surrogate stands for a byte that may belong to no character. -/
def isStrayByte (p : CodePoint) : Bool := 0xDC80 ≤ p.toNat && p.toNat ≤ 0xDCFF

/-- The text of a file name. Bytes that belong to no character are kept as surrogates. -/
def decodeName (bytes : List UInt8) : Text :=
  match h : next bytes with
  | .done => []
  | .bad count _ =>
    bytes.head?.toList.map strayByte ++ (bytes.tail.take (count - 1)).map strayByte
      ++ decodeName (bytes.drop (max 1 count))
  | .char c _ rest =>
    have := length_lt_of_next h
    .char c :: decodeName rest
termination_by bytes.length
decreasing_by
  · cases bytes with
    | nil => simp [next] at h
    | cons a rest => simp only [List.length_drop, List.length_cons]; omega
  · assumption

/-- The bytes of a file name. -/
def encodeName (t : Text) : List UInt8 :=
  t.flatMap fun
    | .char c => encodeChar c
    | .surrogate offset => [offset.val.toUInt8]

/-- Line ends are line feeds: a carriage return, alone or before a line feed, becomes one. -/
def unifyLineEnds : List Char → List Char
  | '\r' :: '\n' :: rest => '\n' :: unifyLineEnds rest
  | '\r' :: rest => '\n' :: unifyLineEnds rest
  | c :: rest => c :: unifyLineEnds rest
  | [] => []

end RepoAudit.Utf8
