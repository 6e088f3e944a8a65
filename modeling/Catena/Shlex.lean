import Catena.PyJson

/-!
# Splitting a command line

`shlex.split(text)`: words apart at blanks, single quotes that keep what they
hold, double quotes in which a backslash escapes a quote and itself, and a
backslash that escapes outside of quotes.
-/

namespace Shlex

/-- Where the reader is: between words, in a word, in quotes, or behind a
backslash that it read in a word or in double quotes. -/
inductive State where
  | blank
  | word
  | quoted (quote : Char)
  | escaped (back : Option Char)
  deriving DecidableEq

def isBlank (character : Char) : Bool :=
  character = ' ' || character = '\t' || character = '\r' || character = '\n'

/-- The words read so far, and the word being read. -/
structure Reading where
  words : List String
  token : List Char

/-- The reading with the word at hand ended. -/
def Reading.emit (reading : Reading) : Reading :=
  ⟨reading.words ++ [String.ofList reading.token], []⟩

def Reading.push (reading : Reading) (characters : List Char) : Reading :=
  ⟨reading.words, reading.token ++ characters⟩

/-- The characters from `state` on. -/
def readFrom (state : State) (reading : Reading) :
    List Char → Except PyError (List String)
  | [] =>
      match state with
      | .blank => .ok reading.words
      | .word => .ok reading.emit.words
      | .quoted _ => .error (.valueError "No closing quotation")
      | .escaped _ => .error (.valueError "No escaped character")
  | next :: rest =>
      match state with
      | .blank =>
          if isBlank next then readFrom .blank reading rest
          else if next = '\\' then readFrom (.escaped none) reading rest
          else if next = '\'' || next = '"' then
            readFrom (.quoted next) reading rest
          else readFrom .word (reading.push [next]) rest
      | .word =>
          if isBlank next then readFrom .blank reading.emit rest
          else if next = '\\' then readFrom (.escaped none) reading rest
          else if next = '\'' || next = '"' then
            readFrom (.quoted next) reading rest
          else readFrom .word (reading.push [next]) rest
      | .quoted quote =>
          if next = quote then readFrom .word reading rest
          else if next = '\\' && quote = '"' then
            readFrom (.escaped (some quote)) reading rest
          else readFrom (.quoted quote) (reading.push [next]) rest
      | .escaped none => readFrom .word (reading.push [next]) rest
      | .escaped (some quote) =>
          if next = '\\' || next = quote then
            readFrom (.quoted quote) (reading.push [next]) rest
          else readFrom (.quoted quote) (reading.push ['\\', next]) rest

/-- `shlex.split(text)`. -/
def split (text : String) : Except PyError (List String) :=
  readFrom .blank ⟨[], []⟩ text.toList

end Shlex
