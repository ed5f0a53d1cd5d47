/-!
# Punctuation marks

Each mark has a spelling of one or two characters, a name for listings (LEFT_PAREN) and a title for
inspection (LeftParen). The second character of a longer mark is always an equals sign.
-/

namespace LoxLex

inductive Mark
  | leftParen | rightParen | leftBrace | rightBrace
  | comma | dot | minus | plus | semicolon | slash | star
  | bang | bangEqual
  | equal | equalEqual
  | greater | greaterEqual
  | less | lessEqual
deriving DecidableEq

namespace Mark

def all : List Mark :=
  [.leftParen, .rightParen, .leftBrace, .rightBrace,
   .comma, .dot, .minus, .plus, .semicolon, .slash, .star,
   .bang, .bangEqual, .equal, .equalEqual, .greater, .greaterEqual, .less, .lessEqual]

theorem mem_all (m : Mark) : m ∈ all := by cases m <;> decide

def spelling : Mark → String
  | .leftParen => "("
  | .rightParen => ")"
  | .leftBrace => "\x7b"
  | .rightBrace => "\x7d"
  | .comma => ","
  | .dot => "."
  | .minus => "-"
  | .plus => "+"
  | .semicolon => ";"
  | .slash => "/"
  | .star => "*"
  | .bang => "!"
  | .bangEqual => "!="
  | .equal => "="
  | .equalEqual => "=="
  | .greater => ">"
  | .greaterEqual => ">="
  | .less => "<"
  | .lessEqual => "<="

def title : Mark → String
  | .leftParen => "LeftParen"
  | .rightParen => "RightParen"
  | .leftBrace => "LeftBrace"
  | .rightBrace => "RightBrace"
  | .comma => "Comma"
  | .dot => "Dot"
  | .minus => "Minus"
  | .plus => "Plus"
  | .semicolon => "Semicolon"
  | .slash => "Slash"
  | .star => "Star"
  | .bang => "Bang"
  | .bangEqual => "BangEqual"
  | .equal => "Equal"
  | .equalEqual => "EqualEqual"
  | .greater => "Greater"
  | .greaterEqual => "GreaterEqual"
  | .less => "Less"
  | .lessEqual => "LessEqual"

def name : Mark → String
  | .leftParen => "LEFT_PAREN"
  | .rightParen => "RIGHT_PAREN"
  | .leftBrace => "LEFT_BRACE"
  | .rightBrace => "RIGHT_BRACE"
  | .comma => "COMMA"
  | .dot => "DOT"
  | .minus => "MINUS"
  | .plus => "PLUS"
  | .semicolon => "SEMICOLON"
  | .slash => "SLASH"
  | .star => "STAR"
  | .bang => "BANG"
  | .bangEqual => "BANG_EQUAL"
  | .equal => "EQUAL"
  | .equalEqual => "EQUAL_EQUAL"
  | .greater => "GREATER"
  | .greaterEqual => "GREATER_EQUAL"
  | .less => "LESS"
  | .lessEqual => "LESS_EQUAL"

def single? : Char → Option Mark
  | '(' => some .leftParen
  | ')' => some .rightParen
  | '\x7b' => some .leftBrace
  | '\x7d' => some .rightBrace
  | ',' => some .comma
  | '.' => some .dot
  | '-' => some .minus
  | '+' => some .plus
  | ';' => some .semicolon
  | '/' => some .slash
  | '*' => some .star
  | '!' => some .bang
  | '=' => some .equal
  | '>' => some .greater
  | '<' => some .less
  | _ => none

def withEqual? : Char → Option Mark
  | '!' => some .bangEqual
  | '=' => some .equalEqual
  | '>' => some .greaterEqual
  | '<' => some .lessEqual
  | _ => none

theorem spelling_of_single? {c : Char} {m : Mark} (h : single? c = some m) :
    m.spelling = String.singleton c := by
  unfold single? at h
  split at h <;> cases h <;> rfl

theorem spelling_of_withEqual? {c : Char} {m : Mark} (h : withEqual? c = some m) :
    m.spelling = .ofList [c, '='] := by
  unfold withEqual? at h
  split at h <;> cases h <;> rfl

theorem spelling_shape (m : Mark) :
    (∃ c, m.spelling.toList = [c] ∧ single? c = some m) ∨
      ∃ c, m.spelling.toList = [c, '='] ∧ withEqual? c = some m := by
  cases m <;> first | exact .inl ⟨_, rfl, rfl⟩ | exact .inr ⟨_, rfl, rfl⟩

theorem single?_of_spelling {m : Mark} {c : Char} (h : m.spelling.toList = [c]) : single? c = some m := by
  obtain ⟨d, hd, hm⟩ | ⟨d, hd, _⟩ := m.spelling_shape
  · rw [hd] at h
    obtain rfl := (List.cons.inj h).1
    exact hm
  · rw [hd] at h
    simp at h

theorem withEqual?_of_spelling {m : Mark} {c d : Char} (h : m.spelling.toList = [c, d]) :
    d = '=' ∧ withEqual? c = some m := by
  obtain ⟨e, he, _⟩ | ⟨e, he, hm⟩ := m.spelling_shape
  · rw [he] at h
    simp at h
  · rw [he] at h
    simp only [List.cons.injEq, and_true] at h
    obtain ⟨rfl, rfl⟩ := h
    exact ⟨rfl, hm⟩

theorem length_spelling_le (m : Mark) : m.spelling.toList.length ≤ 2 := by
  obtain ⟨c, hc, _⟩ | ⟨c, hc, _⟩ := m.spelling_shape <;> simp [hc]

end Mark
end LoxLex
