import Mathlib.Tactic.IntervalCases
import PdnsLogger.Foundation.CText

namespace PdnsLogger
namespace Foundation

/-!
# SQL text

SQL statements are built as text by `sqlite3_mprintf` and taken apart again by
SQLite's tokenizer.  This module states both directions independently of each
other and of any particular statement.

The tokenizer is a transducer over bytes.  A mode records the token under
construction, and feeding a byte either extends that token or completes it
and starts the next.  A string literal ends at the first single quote that is
not followed by another one.  Comments, delimited identifiers and blob
literals are recognized as well, because text that escapes from a literal
would reach them; operators of several characters are left as their single
characters.  Since modes are explicit, tokenizing a concatenation is
continuing from the mode reached, and no argument about lookahead is needed.
-/

/-! ## Formatting -/

/-- The effect of `%q`: copy, doubling every single quote. -/
def doubleQuotes (content : Bytes) : Bytes :=
  content.flatMap fun byte => if byte = 39 then [39, 39] else [byte]

/-- An argument of `sqlite3_mprintf`. -/
inductive MprintfArg where
  | int (value : Int)
  | str (value : CString)
  deriving DecidableEq

/-- `sqlite3_mprintf` for the conversions `%ld`, `%d` and `%q`, each applied to
the next argument.  Every other byte of the format is copied. -/
def sqlite3Mprintf : Bytes -> List MprintfArg -> Bytes
  | 37 :: 108 :: 100 :: format, .int value :: args =>
      signedDecimal value ++ sqlite3Mprintf format args
  | 37 :: 100 :: format, .int value :: args =>
      signedDecimal value ++ sqlite3Mprintf format args
  | 37 :: 113 :: format, .str value :: args =>
      doubleQuotes value.bytes ++ sqlite3Mprintf format args
  | byte :: format, args => byte :: sqlite3Mprintf format args
  | [], _ => []

/-- A stretch of the format without a percent sign is copied. -/
theorem sqlite3Mprintf_text {text : Bytes} (plain : 37 ∉ text) (format : Bytes)
    (args : List MprintfArg) :
    sqlite3Mprintf (text ++ format) args = text ++ sqlite3Mprintf format args := by
  induction text with
  | nil => rfl
  | cons byte text ih =>
      have different : byte ≠ 37 := fun same => plain (same ▸ List.mem_cons_self)
      have later := ih fun member => plain (List.mem_cons_of_mem _ member)
      rw [List.cons_append, List.cons_append, ← later]
      rw [sqlite3Mprintf] <;> intros <;> contradiction

theorem sqlite3Mprintf_ld (format : Bytes) (value : Int) (args : List MprintfArg) :
    sqlite3Mprintf (ascii "%ld" ++ format) (.int value :: args) =
      signedDecimal value ++ sqlite3Mprintf format args :=
  rfl

theorem sqlite3Mprintf_d (format : Bytes) (value : Int) (args : List MprintfArg) :
    sqlite3Mprintf (ascii "%d" ++ format) (.int value :: args) =
      signedDecimal value ++ sqlite3Mprintf format args :=
  rfl

theorem sqlite3Mprintf_q (format : Bytes) (value : CString) (args : List MprintfArg) :
    sqlite3Mprintf (ascii "%q" ++ format) (.str value :: args) =
      doubleQuotes value.bytes ++ sqlite3Mprintf format args :=
  rfl

theorem sqlite3Mprintf_end {text : Bytes} (plain : 37 ∉ text) :
    sqlite3Mprintf text [] = text := by
  have copied := sqlite3Mprintf_text plain [] []
  rwa [List.append_nil, sqlite3Mprintf, List.append_nil] at copied

/-! ## Tokens -/

inductive SqlToken where
  | word (text : Bytes)
  | number (text : Bytes)
  | string (content : Bytes)
  | blob (content : Bytes)
  | symbol (byte : UInt8)
  | illegal
  deriving DecidableEq

/-- The token under construction. -/
inductive LexMode where
  | between
  | word (text : Bytes)
  | number (text : Bytes)
  | string (content : Bytes)
  | stringQuote (content : Bytes)
  | delimited (close : UInt8) (content : Bytes)
  | delimitedQuote (close : UInt8) (content : Bytes)
  | bracketed (content : Bytes)
  | blob (content : Bytes)
  | minus
  | lineComment
  | slash
  | blockComment
  | blockStar
  deriving DecidableEq

def isSpace (byte : UInt8) : Bool :=
  byte == 32 || byte == 9 || byte == 10 || byte == 12 || byte == 13

def isDigit (byte : UInt8) : Bool :=
  decide (48 ≤ byte) && decide (byte ≤ 57)

/-- Letters, the underscore and every byte outside ASCII start an identifier. -/
def isWordStart (byte : UInt8) : Bool :=
  (decide (65 ≤ byte) && decide (byte ≤ 90)) || (decide (97 ≤ byte) && decide (byte ≤ 122)) ||
    byte == 95 || decide (128 ≤ byte)

def isWordByte (byte : UInt8) : Bool :=
  isWordStart byte || isDigit byte || byte == 36

/-- The tokens completed so far and the mode reached. -/
structure Lexer where
  mode : LexMode
  tokens : List SqlToken
  deriving DecidableEq

namespace Lexer

/-- Begin a token with a byte read between tokens. -/
def startToken (tokens : List SqlToken) (byte : UInt8) : Lexer :=
  if isSpace byte then ⟨.between, tokens⟩
  else if byte = 39 then ⟨.string [], tokens⟩
  else if byte = 34 ∨ byte = 96 then ⟨.delimited byte [], tokens⟩
  else if byte = 91 then ⟨.bracketed [], tokens⟩
  else if byte = 45 then ⟨.minus, tokens⟩
  else if byte = 47 then ⟨.slash, tokens⟩
  else if isDigit byte then ⟨.number [byte], tokens⟩
  else if isWordStart byte then ⟨.word [byte], tokens⟩
  else ⟨.between, tokens ++ [.symbol byte]⟩

def feed (lexer : Lexer) (byte : UInt8) : Lexer :=
  match lexer.mode with
  | .between => startToken lexer.tokens byte
  | .word text =>
      if isWordByte byte then ⟨.word (text ++ [byte]), lexer.tokens⟩
      else if byte = 39 ∧ (text = [120] ∨ text = [88]) then ⟨.blob [], lexer.tokens⟩
      else startToken (lexer.tokens ++ [.word text]) byte
  | .number text =>
      if isWordByte byte || byte == 46 then ⟨.number (text ++ [byte]), lexer.tokens⟩
      else startToken (lexer.tokens ++ [.number text]) byte
  | .string content =>
      if byte = 39 then ⟨.stringQuote content, lexer.tokens⟩
      else ⟨.string (content ++ [byte]), lexer.tokens⟩
  | .stringQuote content =>
      if byte = 39 then ⟨.string (content ++ [39]), lexer.tokens⟩
      else startToken (lexer.tokens ++ [.string content]) byte
  | .delimited close content =>
      if byte = close then ⟨.delimitedQuote close content, lexer.tokens⟩
      else ⟨.delimited close (content ++ [byte]), lexer.tokens⟩
  | .delimitedQuote close content =>
      if byte = close then ⟨.delimited close (content ++ [close]), lexer.tokens⟩
      else startToken (lexer.tokens ++ [.word content]) byte
  | .bracketed content =>
      if byte = 93 then ⟨.between, lexer.tokens ++ [.word content]⟩
      else ⟨.bracketed (content ++ [byte]), lexer.tokens⟩
  | .blob content =>
      if byte = 39 then ⟨.between, lexer.tokens ++ [.blob content]⟩
      else ⟨.blob (content ++ [byte]), lexer.tokens⟩
  | .minus =>
      if byte = 45 then ⟨.lineComment, lexer.tokens⟩
      else startToken (lexer.tokens ++ [.symbol 45]) byte
  | .lineComment =>
      if byte = 10 then ⟨.between, lexer.tokens⟩ else ⟨.lineComment, lexer.tokens⟩
  | .slash =>
      if byte = 42 then ⟨.blockComment, lexer.tokens⟩
      else startToken (lexer.tokens ++ [.symbol 47]) byte
  | .blockComment =>
      if byte = 42 then ⟨.blockStar, lexer.tokens⟩ else ⟨.blockComment, lexer.tokens⟩
  | .blockStar =>
      if byte = 47 then ⟨.between, lexer.tokens⟩
      else if byte = 42 then ⟨.blockStar, lexer.tokens⟩
      else ⟨.blockComment, lexer.tokens⟩

def feedAll (lexer : Lexer) (bytes : Bytes) : Lexer :=
  bytes.foldl feed lexer

/-- The tokens at the end of the text.  An unterminated literal is illegal. -/
def finish (lexer : Lexer) : List SqlToken :=
  match lexer.mode with
  | .between | .lineComment | .blockComment | .blockStar => lexer.tokens
  | .word text | .delimitedQuote _ text => lexer.tokens ++ [.word text]
  | .number text => lexer.tokens ++ [.number text]
  | .stringQuote content => lexer.tokens ++ [.string content]
  | .minus => lexer.tokens ++ [.symbol 45]
  | .slash => lexer.tokens ++ [.symbol 47]
  | .string _ | .delimited _ _ | .bracketed _ | .blob _ => lexer.tokens ++ [.illegal]

theorem feedAll_append (lexer : Lexer) (first second : Bytes) :
    lexer.feedAll (first ++ second) = (lexer.feedAll first).feedAll second :=
  List.foldl_append

theorem feedAll_cons (lexer : Lexer) (byte : UInt8) (bytes : Bytes) :
    lexer.feedAll (byte :: bytes) = (lexer.feed byte).feedAll bytes :=
  rfl

end Lexer

def tokenize (text : Bytes) : List SqlToken :=
  ((Lexer.mk .between []).feedAll text).finish

/-! ## Literals survive tokenizing -/

/-- Inside a string literal, quoted text is read back as the text itself and
the literal stays open. -/
theorem Lexer.feedAll_doubleQuotes (tokens : List SqlToken) (content text : Bytes) :
    (Lexer.mk (.string content) tokens).feedAll (doubleQuotes text) =
      ⟨.string (content ++ text), tokens⟩ := by
  induction text generalizing content with
  | nil => simp [doubleQuotes, feedAll]
  | cons byte text ih =>
      rw [doubleQuotes, List.flatMap_cons, ← doubleQuotes, feedAll_append]
      by_cases quote : byte = 39
      · have doubled : (Lexer.mk (.string content) tokens).feedAll [39, 39] =
            ⟨.string (content ++ [39]), tokens⟩ := rfl
        rw [if_pos quote, doubled, ih, quote, List.append_assoc]
        rfl
      · have plain : (Lexer.mk (.string content) tokens).feedAll [byte] =
            ⟨.string (content ++ [byte]), tokens⟩ := by
          simp only [feedAll, List.foldl_cons, List.foldl_nil, feed, if_neg quote]
        rw [if_neg quote, plain, ih, List.append_assoc]
        rfl

theorem isDigit_of_mem_decimal {number : Nat} {byte : UInt8} (member : byte ∈ decimal number) :
    isDigit byte = true := by
  rw [decimal] at member
  by_cases zero : number = 0
  · rw [if_pos zero, List.mem_singleton] at member
    rw [member]
    rfl
  · rw [if_neg zero, List.mem_map] at member
    rcases member with ⟨digit, digitMember, same⟩
    have small : digit < 10 := Nat.digits_lt_base (by decide) (List.mem_reverse.mp digitMember)
    subst same
    interval_cases digit <;> rfl

theorem decimal_ne_nil (number : Nat) : decimal number ≠ [] := by
  rw [decimal]
  by_cases zero : number = 0
  · rw [if_pos zero]
    exact List.cons_ne_nil _ _
  · rw [if_neg zero]
    intro empty
    have noDigits := List.reverse_eq_nil_iff.mp (List.map_eq_nil_iff.mp empty)
    exact zero (Nat.digits_eq_nil_iff_eq_zero.mp noDigits)

private theorem feedAll_digits (tokens : List SqlToken) (text digits : Bytes)
    (all : forall byte, byte ∈ digits -> isDigit byte = true) :
    (Lexer.mk (.number text) tokens).feedAll digits = ⟨.number (text ++ digits), tokens⟩ := by
  induction digits generalizing text with
  | nil => rw [List.append_nil]; rfl
  | cons byte digits ih =>
      have digit := all byte List.mem_cons_self
      have step : (Lexer.mk (.number text) tokens).feed byte =
          ⟨.number (text ++ [byte]), tokens⟩ := by
        simp only [Lexer.feed, isWordByte, digit, Bool.or_true, Bool.true_or, if_true]
      rw [Lexer.feedAll_cons, step, ih _ (fun other member => all other (List.mem_cons_of_mem _ member)),
        List.append_assoc]
      rfl

/-- A digit starts a number, and is none of the earlier alternatives. -/
private theorem startToken_digit (tokens : List SqlToken) {byte : UInt8}
    (digit : isDigit byte = true) :
    Lexer.startToken tokens byte = ⟨.number [byte], tokens⟩ := by
  simp only [isDigit, Bool.and_eq_true, decide_eq_true_eq] at digit
  have lower : 48 ≤ byte.toNat := UInt8.le_iff_toNat_le.mp digit.1
  have upper : byte.toNat ≤ 57 := UInt8.le_iff_toNat_le.mp digit.2
  have known : byte = UInt8.ofNat byte.toNat := UInt8.ofNat_toNat.symm
  rw [known]
  generalize byte.toNat = code at lower upper
  interval_cases code <;> rfl

/-- Between tokens, or after a minus sign, a numeral becomes one number. -/
theorem Lexer.feedAll_decimal (tokens : List SqlToken) (number : Nat) :
    (Lexer.mk .between tokens).feedAll (decimal number) = ⟨.number (decimal number), tokens⟩ := by
  cases shape : decimal number with
  | nil => exact absurd shape (decimal_ne_nil number)
  | cons byte digits =>
      have all : forall other, other ∈ byte :: digits -> isDigit other = true :=
        fun other member => isDigit_of_mem_decimal (shape ▸ member)
      have first : (Lexer.mk .between tokens).feed byte = ⟨.number [byte], tokens⟩ :=
        startToken_digit tokens (all byte List.mem_cons_self)
      rw [feedAll_cons, first,
        feedAll_digits _ _ _ (fun other member => all other (List.mem_cons_of_mem _ member))]
      rfl

/-- The tokens of an integer that precede its number. -/
def signTokens (value : Int) : List SqlToken :=
  if value < 0 then [.symbol 45] else []

/-- Between tokens, a signed numeral becomes its sign and one number. -/
theorem Lexer.feedAll_signedDecimal (tokens : List SqlToken) (value : Int) :
    (Lexer.mk .between tokens).feedAll (signedDecimal value) =
      ⟨.number (decimal value.natAbs), tokens ++ signTokens value⟩ := by
  cases value with
  | ofNat number =>
      have unsigned : signTokens (Int.ofNat number) = [] :=
        if_neg (Int.not_lt.mpr (Int.natCast_nonneg number))
      rw [unsigned, List.append_nil]
      exact feedAll_decimal tokens number
  | negSucc number =>
      have signed : signTokens (Int.negSucc number) = [.symbol 45] :=
        if_pos (Int.negSucc_lt_zero number)
      rw [signed, signedDecimal, feedAll_cons]
      have afterMinus : forall digits : Bytes,
          (forall byte, byte ∈ digits -> isDigit byte = true) -> digits ≠ [] ->
          (Lexer.mk .minus tokens).feedAll digits =
            (Lexer.mk .between (tokens ++ [.symbol 45])).feedAll digits := by
        intro digits all nonempty
        cases digits with
        | nil => exact absurd rfl nonempty
        | cons byte digits =>
            have notMinus : byte ≠ 45 := by
              intro minus
              have digit := all byte List.mem_cons_self
              rw [minus] at digit
              cases digit
            rw [feedAll_cons, feedAll_cons]
            simp only [feed, if_neg notMinus]
      have started : (Lexer.mk .between tokens).feed 45 = ⟨.minus, tokens⟩ := rfl
      rw [started, afterMinus _ (fun _ member => isDigit_of_mem_decimal member)
        (decimal_ne_nil _)]
      exact feedAll_decimal _ (number + 1)

/-! ## One `INSERT` statement -/

inductive SqlValue where
  | integer (negative : Bool) (digits : Bytes)
  | text (content : Bytes)
  deriving DecidableEq

/-- An integer as its plain decimal literal. -/
def SqlValue.ofInt (value : Int) : SqlValue :=
  .integer (decide (value < 0)) (decimal value.natAbs)

theorem SqlValue.ofInt_injective {first second : Int}
    (same : SqlValue.ofInt first = SqlValue.ofInt second) : first = second := by
  simp only [SqlValue.ofInt, SqlValue.integer.injEq, decide_eq_decide] at same
  have magnitude := decimal_injective same.2
  omega

/-- The content of `INSERT INTO table (columns) VALUES (values)`. -/
structure InsertStatement where
  table : Bytes
  columns : List Bytes
  values : List SqlValue
  deriving DecidableEq

/-- Identifiers separated by commas up to a closing parenthesis. -/
def parseColumns : List SqlToken -> Option (List Bytes × List SqlToken)
  | .word column :: .symbol 44 :: rest =>
      (parseColumns rest).map fun parsed => (column :: parsed.1, parsed.2)
  | .word column :: .symbol 41 :: rest => some ([column], rest)
  | _ => none

/-- Literal values separated by commas up to a closing parenthesis.  A number
counts only when it consists of digits. -/
def parseValues : List SqlToken -> Option (List SqlValue × List SqlToken)
  | .string content :: .symbol 44 :: rest =>
      (parseValues rest).map fun parsed => (.text content :: parsed.1, parsed.2)
  | .string content :: .symbol 41 :: rest => some ([.text content], rest)
  | .number digits :: .symbol 44 :: rest =>
      if digits.all isDigit then
        (parseValues rest).map fun parsed => (.integer false digits :: parsed.1, parsed.2)
      else none
  | .number digits :: .symbol 41 :: rest =>
      if digits.all isDigit then some ([.integer false digits], rest) else none
  | .symbol 45 :: .number digits :: .symbol 44 :: rest =>
      if digits.all isDigit then
        (parseValues rest).map fun parsed => (.integer true digits :: parsed.1, parsed.2)
      else none
  | .symbol 45 :: .number digits :: .symbol 41 :: rest =>
      if digits.all isDigit then some ([.integer true digits], rest) else none
  | _ => none

/-- Recognize exactly one `INSERT` statement and nothing after it. -/
def parseInsert : List SqlToken -> Option InsertStatement
  | .word insert :: .word into :: .word table :: .symbol 40 :: rest =>
      if insert = ascii "INSERT" ∧ into = ascii "INTO" then
        match parseColumns rest with
        | some (columns, .word keyword :: .symbol 40 :: rest) =>
            if keyword = ascii "VALUES" then
              match parseValues rest with
              | some (values, []) => some ⟨table, columns, values⟩
              | _ => none
            else none
        | _ => none
      else none
  | _ => none

theorem parseInsert_of_parts {table : Bytes} {columns : List Bytes} {values : List SqlValue}
    {tokens rest : List SqlToken}
    (named : parseColumns tokens =
      some (columns, .word (ascii "VALUES") :: .symbol 40 :: rest))
    (valued : parseValues rest = some (values, [])) :
    parseInsert
        (.word (ascii "INSERT") :: .word (ascii "INTO") :: .word table :: .symbol 40 :: tokens) =
      some ⟨table, columns, values⟩ := by
  simp only [parseInsert, named, valued, and_self, if_true]

theorem parseValues_text (content : Bytes) (rest : List SqlToken) :
    parseValues (.string content :: .symbol 44 :: rest) =
      (parseValues rest).map fun parsed => (.text content :: parsed.1, parsed.2) :=
  rfl

theorem parseValues_int (value : Int) (rest : List SqlToken) :
    parseValues (signTokens value ++ .number (decimal value.natAbs) :: .symbol 44 :: rest) =
      (parseValues rest).map fun parsed => (.ofInt value :: parsed.1, parsed.2) := by
  have digits : (decimal value.natAbs).all isDigit = true :=
    List.all_eq_true.mpr fun _ member => isDigit_of_mem_decimal member
  by_cases negative : value < 0
  · simp only [signTokens, negative, if_true, List.cons_append, List.nil_append, parseValues,
      digits, SqlValue.ofInt, decide_true]
  · simp only [signTokens, negative, if_false, List.nil_append, parseValues, digits, if_true,
      SqlValue.ofInt, decide_false]

end Foundation
end PdnsLogger
