import ModuleBundler.Token.Lexer

/-!
# A stream of tokens with lookahead

* `TokenStream` : the tokens read so far, the latest first, and tokens looked at ahead of them;
* `TokenStream.position` : the place after the last token read, `TokenStream.lastEnd` its offset;
* `TokenStream.peek`, `TokenStream.peek2`, `TokenStream.peek3` : looking ahead;
* `TokenStream.advance` : reading a token;
* `TokenStream.rewindTo` : going back to a number of tokens read.

A token that was looked at in one mode is read again when it is asked for in another.
-/

namespace ModuleBundler

/-- A token with the mode it was read in and the place after it. -/
structure BufferedToken where
  token : Token
  mode : LexMode
  after : Cursor

structure TokenStream where
  source : Cursor
  /-- The length of the source in bytes. -/
  size : Nat
  /-- The tokens read, the latest first. -/
  behind : List BufferedToken
  /-- The tokens looked at beyond them. -/
  ahead : List BufferedToken

namespace TokenStream

def ofString (source : String) : TokenStream :=
  ⟨.ofString source, source.utf8ByteSize, [], []⟩

/-- The place after the last token read. -/
def position (s : TokenStream) : Cursor :=
  match s.behind with
  | last :: _ => last.after
  | [] => s.source

/-- The offset at which the last token read ends. -/
def lastEnd (s : TokenStream) : Nat :=
  match s.behind with
  | last :: _ => last.token.span.stop
  | [] => 0

/-- The number of bytes after the last token read. -/
def remaining (s : TokenStream) : Nat := s.size - s.position.offset

/-- The next token from a place, to keep. -/
def readAt (mode : LexMode) (place : Cursor) : BufferedToken :=
  let (token, after) := nextToken mode place
  ⟨token, mode, after⟩

/-- Makes the first `count` tokens ahead of a place be there in the given mode. From the first one
that is not, they are read anew. -/
def lookAhead (mode : LexMode) : Nat → Cursor → List BufferedToken → List BufferedToken
  | 0, _, ahead => ahead
  | count + 1, place, ahead =>
    match ahead with
    | next :: rest =>
      if next.mode = mode then next :: lookAhead mode count next.after rest
      else
        let next := readAt mode place
        next :: lookAhead mode count next.after []
    | [] =>
      let next := readAt mode place
      next :: lookAhead mode count next.after []

/-- The stream with its first `count` tokens ahead in the given mode. -/
def fill (mode : LexMode) (count : Nat) (s : TokenStream) : TokenStream :=
  { s with ahead := lookAhead mode count s.position s.ahead }

/-- The token at an index ahead. Beyond what was looked at there is a token without text. -/
def tokenAhead (s : TokenStream) (index : Nat) : Token :=
  ((s.ahead[index]?).map BufferedToken.token).getD default

/-- The next token in a mode. -/
def peek (mode : LexMode) (s : TokenStream) : Token × TokenStream :=
  let s := s.fill mode 1
  (s.tokenAhead 0, s)

/-- The next two tokens. -/
def peek2 (s : TokenStream) : (Token × Token) × TokenStream :=
  let s := s.fill .standard 2
  ((s.tokenAhead 0, s.tokenAhead 1), s)

/-- The next three tokens. -/
def peek3 (s : TokenStream) : (Token × Token × Token) × TokenStream :=
  let s := s.fill .standard 3
  ((s.tokenAhead 0, s.tokenAhead 1, s.tokenAhead 2), s)

/-- Reads the next token in a mode. -/
def advance (mode : LexMode) (s : TokenStream) : Token × TokenStream :=
  let s := s.fill mode 1
  match s.ahead with
  | next :: rest => (next.token, { s with behind := next :: s.behind, ahead := rest })
  | [] => (default, s)

/-- The number of tokens read. -/
def count (s : TokenStream) : Nat := s.behind.length

/-- Goes back until no more than `n` tokens are read. What was read after them stays ahead. -/
def rewindTo (n : Nat) (s : TokenStream) : TokenStream :=
  go (s.count - n) s
where
  go : Nat → TokenStream → TokenStream
    | 0, s => s
    | steps + 1, s =>
      match s.behind with
      | [] => s
      | last :: behind => go steps { s with behind := behind, ahead := last :: s.ahead }

/-- Where each token that was read or looked at begins, in order. The end of the text is none. -/
def tokenStarts (s : TokenStream) : List Nat :=
  ((s.behind.reverse ++ s.ahead).filter fun b => b.token.type ≠ .eof).map fun b =>
    b.token.span.start

end TokenStream
end ModuleBundler
