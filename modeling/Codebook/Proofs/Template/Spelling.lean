import Codebook.Proofs.Template.Lexing
import Codebook.Proofs.Template.Term

/-!
# How a term is written

`Term.text` writes a term with a blank behind each comma and none elsewhere. Every term can be
written so in which no text in quotes would have to be escaped.
-/

namespace Codebook.Template

theorem written_word {name text : Text} {tokens : List Token} (hname : isWord name = true)
    (hend : EndsWord text) (h : Written tokens text) :
    Written (.word name :: tokens) (name ++ text) := by
  cases name with
  | nil => exact nomatch hname
  | cons c name =>
    rw [isWord, Bool.and_eq_true, List.all_eq_true] at hname
    exact .word hname.1 hname.2 hend h

/-- Some words with blanks around and between them. -/
def spacedWords (words : List Text) : Text := words.flatMap (' ' :: ·) ++ [' ']

theorem written_spacedWords {words : List Text} (h : words.all isWord = true) :
    Written (words.map .word) (spacedWords words) := by
  induction words with
  | nil => exact .blank rfl .nil
  | cons word words ih =>
    rw [List.all_cons, Bool.and_eq_true] at h
    have hend : EndsWord (spacedWords words) := by
      cases words <;> exact endsWord_cons rfl _
    rw [spacedWords, List.flatMap_cons, List.append_assoc]
    exact .blank rfl (written_word h.1 hend (ih h.2))

namespace Term

mutual

/-- A term as it is usually written. -/
def text : Term → Text
  | literal body => '"' :: body ++ ['"']
  | name n => n.text
  | call n arguments => n.text ++ '(' :: textOfAll arguments ++ [')']
  | list items => '[' :: textOfAll items ++ [']']

/-- Some terms with commas between them. -/
def textOfAll : List Term → Text
  | [] => []
  | first :: rest => first.text ++ textBehind rest

/-- Some terms with a comma in front of each. -/
def textBehind : List Term → Text
  | [] => []
  | first :: rest => ',' :: ' ' :: first.text ++ textBehind rest

end

mutual

/-- Whether nothing has to be escaped in the texts of a term. -/
def isPlain : Term → Bool
  | literal body => '"' ∉ body && '\\' ∉ body
  | name _ => true
  | call _ arguments => areAllPlain arguments
  | list items => areAllPlain items

/-- Whether nothing has to be escaped in the texts of some terms. -/
def areAllPlain : List Term → Bool
  | [] => true
  | first :: rest => first.isPlain && areAllPlain rest

end

mutual

/-- **A term is written as it is usually written.** -/
theorem written_text : ∀ t : Term, t.isPlain = true → Written t.tokens t.text
  | literal body, h => by
    simp only [isPlain, Bool.and_eq_true, decide_eq_true_eq] at h
    rw [tokens, text]
    exact .quoted h.1 h.2 .nil
  -- a word ends where something follows that is no part of words
  | name n, _ => by
    have h := written_word n.word endsWord_nil .nil
    rw [List.append_nil] at h
    rw [tokens, text]
    exact h
  | call n arguments, h => by
    rw [isPlain] at h
    rw [tokens, text, List.append_assoc]
    refine written_word n.word (endsWord_cons rfl _) (.sign (by decide) ?_)
    exact (written_textOfAll arguments h).append (endsWord_cons rfl _) (.sign (by decide) .nil)
  | list items, h => by
    rw [isPlain] at h
    rw [tokens, text]
    refine .sign (by decide) ?_
    exact (written_textOfAll items h).append (endsWord_cons rfl _) (.sign (by decide) .nil)

theorem written_textOfAll : ∀ ts : List Term, areAllPlain ts = true →
    Written (tokensOfAll ts) (textOfAll ts)
  | [], _ => by
    rw [tokensOfAll, textOfAll]
    exact .nil
  | first :: rest, h => by
    rw [areAllPlain, Bool.and_eq_true] at h
    have hrest := written_textBehind rest h.2
    rw [tokensOfAll, textOfAll]
    exact (written_text first h.1).append hrest.2 hrest.1

theorem written_textBehind : ∀ ts : List Term, areAllPlain ts = true →
    Written (tokensBehind ts) (textBehind ts) ∧ EndsWord (textBehind ts)
  | [], _ => by
    rw [tokensBehind, textBehind]
    exact ⟨.nil, endsWord_nil⟩
  | first :: rest, h => by
    rw [areAllPlain, Bool.and_eq_true] at h
    have hrest := written_textBehind rest h.2
    have hfirst := (written_text first h.1).append hrest.2 hrest.1
    rw [tokensBehind, textBehind]
    exact ⟨.sign (by decide) (.blank rfl hfirst), endsWord_cons rfl _⟩

end

end Term

end Codebook.Template
