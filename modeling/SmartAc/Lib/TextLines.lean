import Mathlib.Data.List.Infix
import Mathlib.Data.List.TakeWhile
import Mathlib.Tactic.Common

/-!
# Reading lines of fields

A text is read as its lines, each ended by a line feed and perhaps a carriage return before it; what
comes after the last line feed is no line yet. A line is read as its words, and a word `key=value` as a
field. What is written line by line is read line by line, whatever follows (`readLines_append`), and
reading never takes back a line (`readLines_initial`).
-/

namespace TextLines

/-! ## Lines -/

def dropReturn (line : List Char) : List Char := if line.getLast? = some '\r' then line.dropLast else line

/-- The lines of a text. -/
def readLines (text : List Char) : List (List Char) := (text.splitOn '\n').dropLast.map dropReturn

@[simp] theorem readLines_nil : readLines [] = [] := rfl

/-- A line feed parts what is read before it from what is read after it. -/
theorem readLines_append (before after : List Char) :
    readLines (before ++ '\n' :: after) = readLines (before ++ ['\n']) ++ readLines after := by
  have hsplit (rest : List Char) :
      (before ++ '\n' :: rest).splitOn '\n' = before.splitOn '\n' ++ rest.splitOn '\n' :=
    List.splitOnP_append_cons before rest (by simp)
  have hone : ([] : List Char).splitOn '\n' = [[]] := rfl
  unfold readLines
  rw [hsplit, hsplit, hone, List.dropLast_append_of_ne_nil (by simp), List.map_append, List.dropLast_concat]

/-- What has no line feed is no line. -/
theorem readLines_unfinished {text : List Char} (h : '\n' ∉ text) : readLines text = [] := by
  have hone : text.splitOn '\n' = [text] :=
    List.splitOnP_eq_singleton fun c hc => by
      rw [beq_eq_false_iff_ne]
      rintro rfl
      exact h hc
  rw [readLines, hone]
  rfl

/-- One line. -/
theorem readLines_line {line : List Char} (h : '\n' ∉ line) : readLines (line ++ ['\r', '\n']) = [line] := by
  have hsplit : (line ++ ['\r', '\n']).splitOn '\n' = [line ++ ['\r'], []] := by
    have hfeed : line ++ ['\r', '\n'] = (line ++ ['\r']) ++ ['\n'] := by simp
    rw [hfeed]
    refine List.splitOnP_append_cons_of_forall_mem (fun c hc => ?_) '\n' (by simp) []
    rw [beq_eq_false_iff_ne]
    rintro rfl
    simp [h] at hc
  rw [readLines, hsplit]
  simp [dropReturn]

/-- A text that ends with a line feed, or is empty. -/
def Finished (text : List Char) : Prop := text = [] ∨ text.getLast? = some '\n'

theorem finished_line (line : List Char) : Finished (line ++ ['\r', '\n']) := by
  right
  rw [List.getLast?_append]
  rfl

theorem Finished.readLines_append {text : List Char} (h : Finished text) (after : List Char) :
    readLines (text ++ after) = readLines text ++ readLines after := by
  rcases h with rfl | hlast
  · rfl
  · obtain ⟨before, rfl⟩ := List.getLast?_eq_some_iff.1 hlast
    rw [List.append_assoc, List.singleton_append]
    exact TextLines.readLines_append before after

/-- Finished texts, one after the other. -/
theorem readLines_flatten {texts : List (List Char)} (h : ∀ t ∈ texts, Finished t) :
    readLines texts.flatten = texts.flatMap readLines := by
  induction texts with
  | nil => rfl
  | cons t texts ih =>
    rw [List.flatten_cons, List.flatMap_cons, (h t List.mem_cons_self).readLines_append,
      ih fun t' ht' => h t' (List.mem_cons_of_mem t ht')]

/-- More text only adds lines. -/
theorem readLines_initial (text rest : List Char) : readLines text <+: readLines (text ++ rest) := by
  induction hn : text.length using Nat.strongRecOn generalizing text with
  | ind n ih =>
    by_cases hfeed : '\n' ∈ text
    · obtain ⟨line, after, rfl, -⟩ := List.eq_append_cons_of_mem hfeed
      rw [List.append_assoc, List.cons_append, readLines_append line after, readLines_append line (after ++ rest)]
      simp only [List.length_append, List.length_cons] at hn
      exact (List.prefix_append_right_inj _).2 (ih after.length (by omega) after rfl)
    · rw [readLines_unfinished hfeed]
      exact List.nil_prefix

/-! ## Fields -/

def fieldOf (word : List Char) : Option (List Char × List Char) :=
  match word.dropWhile (· != '=') with
  | [] => none
  | _ :: value => some (word.takeWhile (· != '='), value)

def fieldText (field : List Char × List Char) : List Char := field.1 ++ '=' :: field.2

/-- The fields of a line. -/
def fields (line : List Char) : List (List Char × List Char) := (line.splitOn ' ').filterMap fieldOf

theorem fieldOf_none {word : List Char} (h : '=' ∉ word) : fieldOf word = none := by
  have hword : ∀ c ∈ word, (c != '=') = true := fun c hc => bne_iff_ne.2 fun heq => h (heq ▸ hc)
  rw [fieldOf, List.dropWhile_eq_nil_iff.2 hword]

theorem fieldOf_fieldText {key : List Char} (h : '=' ∉ key) (value : List Char) :
    fieldOf (fieldText (key, value)) = some (key, value) := by
  have hkey : ∀ c ∈ key, (c != '=') = true := fun c hc => bne_iff_ne.2 fun heq => h (heq ▸ hc)
  have hend : ('=' != '=') = false := by decide
  rw [fieldOf, fieldText, List.dropWhile_append_of_pos hkey, List.takeWhile_append_of_pos hkey, List.dropWhile_cons,
    List.takeWhile_cons, hend]
  simp

/-- A text of one word. -/
def Plain (text : List Char) : Prop := ∀ c ∈ text, c ≠ ' ' ∧ c ≠ '\n'

theorem Plain.append {a b : List Char} (ha : Plain a) (hb : Plain b) : Plain (a ++ b) := by
  intro c hc
  rcases List.mem_append.1 hc with hc | hc
  · exact ha c hc
  · exact hb c hc

theorem Plain.cons {c : Char} {text : List Char} (hc : c ≠ ' ' ∧ c ≠ '\n') (h : Plain text) :
    Plain (c :: text) := by
  intro d hd
  rcases List.mem_cons.1 hd with rfl | hd
  · exact hc
  · exact h d hd

theorem Plain.fieldText {key value : List Char} (hkey : Plain key) (hvalue : Plain value) :
    Plain (fieldText (key, value)) :=
  hkey.append (hvalue.cons (by decide))

/-- The line of some words. -/
def lineOf (words : List (List Char)) : List Char := [' '].intercalate words

theorem fields_lineOf {words : List (List Char)} (hne : words ≠ []) (h : ∀ w ∈ words, Plain w) :
    fields (lineOf words) = words.filterMap fieldOf := by
  have hspace : ∀ w ∈ words, ' ' ∉ w := fun w hw hmem => (h w hw ' ' hmem).1 rfl
  rw [fields, lineOf, List.splitOn_intercalate ' ' hspace hne]

theorem lineOf_no_feed {words : List (List Char)} (h : ∀ w ∈ words, Plain w) : '\n' ∉ lineOf words := by
  induction words with
  | nil => simp [lineOf]
  | cons w words ih =>
    have hw : '\n' ∉ w := fun hmem => (h w List.mem_cons_self '\n' hmem).2 rfl
    have hrest := ih fun w' hw' => h w' (List.mem_cons_of_mem w hw')
    cases words with
    | nil => simpa [lineOf] using hw
    | cons w' words =>
      rw [lineOf, List.intercalate_cons_cons]
      simp only [List.mem_append, List.mem_singleton, not_or]
      exact ⟨⟨hw, by decide⟩, hrest⟩

end TextLines
