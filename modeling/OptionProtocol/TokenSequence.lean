import OptionProtocol.Text.Quoted

/-! Token sequences: the tokens given to an option handler, each marked when an option has
taken it. Taking leaves the tokens and their order alone. -/

set_option autoImplicit false

namespace OptionProtocol

structure Token where
  text : String
  consumed : Bool := false
  deriving DecidableEq, Repr

/-- Tokens with the marks of those already taken. -/
structure TokenSequence where
  tokens : List Token
  deriving DecidableEq, Repr

namespace TokenSequence

def ofTexts (texts : List String) : TokenSequence := ⟨texts.map fun text => { text }⟩

def texts (s : TokenSequence) : List String := s.tokens.map Token.text

def marks (s : TokenSequence) : List Bool := s.tokens.map Token.consumed

/-- The tokens nothing has taken, in their order. -/
def remaining (s : TokenSequence) : List String :=
  (s.tokens.filter fun token => !token.consumed).map Token.text

/-- The token that announces an option. -/
def announce (flag : String) : String := "-" ++ flag

def Announces (flag : String) (token : Token) : Bool :=
  !token.consumed && token.text == announce flag

/-- The place of the first token left that announces the option. -/
def find? (s : TokenSequence) (flag : String) : Option Nat :=
  s.tokens.findIdx? (Announces flag)

/-- Mark the first token left that announces the option; none if there is no such token. -/
def takeFirst? (flag : String) : List Token → Option (List Token)
  | [] => none
  | token :: rest =>
      if Announces flag token then some ({ token with consumed := true } :: rest)
      else (takeFirst? flag rest).map (token :: ·)

def takeFlag (s : TokenSequence) (flag : String) : Bool × TokenSequence :=
  match takeFirst? flag s.tokens with
  | some tokens => (true, ⟨tokens⟩)
  | none => (false, s)

/-- What looking for an option with a value finds: nothing, an announcement that no token
left follows directly, or a value together with the tokens after both are marked. -/
inductive Taken where
  | absent
  | valueless
  | value (text : String) (tokens : List Token)
  deriving DecidableEq, Repr

def Taken.after (token : Token) : Taken → Taken
  | .value text tokens => .value text (token :: tokens)
  | other => other

def takePair (flag : String) : List Token → Taken
  | [] => .absent
  | token :: rest =>
      if Announces flag token then
        match rest with
        | [] => .valueless
        | next :: rest =>
            if next.consumed then .valueless
            else .value next.text
              ({ token with consumed := true } :: { next with consumed := true } :: rest)
      else (takePair flag rest).after token

def takeValue (s : TokenSequence) (flag : String) : Taken := takePair flag s.tokens

/-- The mark at a place, which is counted from the end when it is negative. -/
def isConsumed? (s : TokenSequence) (index : Int) : Option Bool :=
  let place := if index < 0 then index + s.tokens.length else index
  if 0 ≤ place then (s.tokens[place.toNat]?).map Token.consumed else none

def text (s : TokenSequence) : String := "TokenSequence(" ++ Text.quotedList s.remaining ++ ")"

def freeCount (tokens : List Token) : Nat := tokens.countP fun token => !token.consumed

/-- Every value taken leaves two tokens less. -/
theorem freeCount_takePair {flag : String} {tokens after : List Token} {value : String}
    (h : takePair flag tokens = .value value after) :
    freeCount after + 2 = freeCount tokens := by
  induction tokens generalizing after with
  | nil => simp [takePair] at h
  | cons token rest ih =>
    unfold takePair at h
    split at h
    · rename_i announced
      simp only [Announces, Bool.and_eq_true, Bool.not_eq_true'] at announced
      split at h
      · simp at h
      · split at h
        · simp at h
        · rename_i free
          simp only [Taken.value.injEq] at h
          simp [← h.2, freeCount, announced.1, free]
    · cases taken : takePair flag rest with
      | absent => simp [taken, Taken.after] at h
      | valueless => simp [taken, Taken.after] at h
      | value text marked =>
        simp only [taken, Taken.after, Taken.value.injEq] at h
        obtain ⟨rfl, rfl⟩ := h
        have shorter := ih taken
        simp only [freeCount] at shorter ⊢
        cases mark : token.consumed <;> simp [mark] <;> omega

end TokenSequence

end OptionProtocol
