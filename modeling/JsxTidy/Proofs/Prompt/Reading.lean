import JsxTidy.Prompt
import JsxTidy.Proofs.Text.Find

/-!
# Reading prompts

A prompt is read line by line: the name of a file if the first line has one, the line with the
task, and a block that goes up to the next line that is a fence. Nothing of the code is escaped,
so a fence in the code ends the block there. The main result, `PromptReading.ofText_userPrompt`,
says for which file names and which code a prompt is read as it was meant, and what is read of
the other code.
-/

namespace JsxTidy

/-- The lines of a text. -/
def linesOf (text : String) : List String :=
  (text.toList.splitOn '\n').map String.ofList

section

variable {s t line : String} {lines : List String}

theorem linesOf_append : linesOf (s ++ "\n" ++ t) = linesOf s ++ linesOf t := by
  have hlist : (s ++ "\n" ++ t).toList = s.toList ++ '\n' :: t.toList := by simp
  rw [linesOf, hlist, List.splitOn_append_cons_self, List.map_append]
  rfl

theorem linesOf_of_notMem (h : '\n' ∉ s.toList) : linesOf s = [s] := by
  rw [linesOf, List.splitOn_eq_singleton h, List.map_singleton, String.ofList_toList]

/-- A text that is put together from parts has the lines of these. -/
theorem linesOf_intercalate (h : lines ≠ []) :
    linesOf ("\n".intercalate lines) = lines.flatMap linesOf := by
  induction lines with
  | nil => exact absurd rfl h
  | cons line lines ih =>
      by_cases hnil : lines = []
      · simp [hnil]
      · rw [String.intercalate_cons_of_ne_nil hnil, linesOf_append, ih hnil, List.flatMap_cons]

theorem intercalate_linesOf (s : String) : "\n".intercalate (linesOf s) = s := by
  have hlines : (linesOf s).map String.toList = s.toList.splitOn '\n' := by
    simp [linesOf, Function.comp_def]
  rw [← String.toList_inj, String.toList_intercalate, hlines]
  exact List.intercalate_splitOn '\n'

theorem notMem_of_mem_splitOn {sep : Char} {text part : List Char} (h : part ∈ text.splitOn sep) :
    sep ∉ part := by
  induction text generalizing part with
  | nil =>
      rw [List.splitOn_nil, List.mem_singleton] at h
      rw [h]
      exact List.not_mem_nil
  | cons c text ih =>
      rw [List.splitOn_cons_eq_if_modifyHead] at h
      split at h
      · rcases List.mem_cons.1 h with rfl | h
        · exact List.not_mem_nil
        · exact ih h
      · rename_i hc
        obtain ⟨first, rest, hsplit⟩ := List.exists_cons_of_ne_nil (List.splitOn_ne_nil sep text)
        rw [hsplit, List.modifyHead_cons] at h
        rcases List.mem_cons.1 h with rfl | h
        · have hfirst : sep ∉ first := ih (by rw [hsplit]; exact List.mem_cons_self)
          exact List.not_mem_cons_of_ne_of_not_mem (fun heq => hc (by simp [heq])) hfirst
        · exact ih (by rw [hsplit]; exact List.mem_cons_of_mem _ h)

theorem notMem_of_mem_linesOf (h : line ∈ linesOf s) : '\n' ∉ line.toList := by
  obtain ⟨part, hpart, rfl⟩ := List.mem_map.1 h
  rw [String.toList_ofList]
  exact notMem_of_mem_splitOn hpart

end

/-! ## The format -/

/-- The line that ends a block. -/
def fence : String :=
  "\x60\x60\x60"

/-- What is read from a prompt. -/
structure PromptReading where
  fileName : Option String
  code : String
  /-- The lines behind the block. -/
  behind : List String
deriving DecidableEq

namespace PromptReading

/-- Reads the line with the task and the block behind it. -/
def ofBlock (fileName : Option String) : List String → Option PromptReading
  | task :: opening :: rest =>
    if task = "Refactor the following component:" ∧ opening = fence ++ "tsx" then
      match rest.dropWhile (· ≠ fence) with
      | [] => none
      | _ :: behind => some ⟨fileName, "\n".intercalate (rest.takeWhile (· ≠ fence)), behind⟩
    else none
  | _ => none

/-- Reads the name of a file if the first line has one, and what stands behind it. -/
def ofLines : List String → Option PromptReading
  | [] => none
  | first :: rest =>
    match Text.after? "File: ".toList first.toList with
    | some name => ofBlock (some (String.ofList name)) rest
    | none => ofBlock none (first :: rest)

/-- Reads a prompt. -/
def ofText (text : String) : Option PromptReading :=
  ofLines (linesOf text)

variable {fileName : Option String} {before behind lines : List String} {r : PromptReading}
  {name code : String}

/-- The block ends with the first fence in it. -/
theorem ofBlock_of_fence (h : fence ∉ before) :
    ofBlock fileName ("Refactor the following component:" :: (fence ++ "tsx") ::
      (before ++ fence :: behind)) = some ⟨fileName, "\n".intercalate before, behind⟩ := by
  have hkeep : ∀ line ∈ before, decide (line ≠ fence) = true := by
    intro line hline
    exact decide_eq_true fun heq => h (heq ▸ hline)
  have hdrop : (before ++ fence :: behind).dropWhile (· ≠ fence) = fence :: behind := by
    rw [List.dropWhile_append_of_pos hkeep, List.dropWhile_cons_of_neg (by simp)]
  have htake : (before ++ fence :: behind).takeWhile (· ≠ fence) = before := by
    rw [List.takeWhile_append_of_pos hkeep, List.takeWhile_cons_of_neg (by simp), List.append_nil]
  rw [ofBlock, if_pos ⟨rfl, rfl⟩, hdrop, htake]

theorem fileName_of_ofBlock (h : ofBlock fileName lines = some r) : r.fileName = fileName := by
  rw [ofBlock.eq_def] at h
  split at h
  · split at h
    · split at h
      · cases h
      · cases h
        rfl
    · cases h
  · cases h

/-- No name of a file that is read goes over several lines. -/
theorem notMem_of_ofText {text : String} (h : ofText text = some r)
    (hname : r.fileName = some name) : '\n' ∉ name.toList := by
  rw [ofText, ofLines.eq_def] at h
  split at h
  · cases h
  · rename_i first rest hlines
    split at h
    · rename_i found hfound
      have hfile : some (String.ofList found) = some name :=
        (fileName_of_ofBlock h).symm.trans hname
      cases hfile
      rw [String.toList_ofList]
      have hfirst : '\n' ∉ first.toList :=
        notMem_of_mem_linesOf (by rw [hlines]; exact List.mem_cons_self)
      rw [Text.after?_eq_some_iff.1 hfound] at hfirst
      exact fun hmem => hfirst (List.mem_append_right _ hmem)
    · rw [fileName_of_ofBlock h] at hname
      cases hname

/-! ## Prompts -/

/-- The name of a file that a prompt is to give: an empty one counts as none. -/
def shownName (fileName : Option String) : Option String :=
  fileName.filter fun name => !name.isEmpty

theorem linesOf_userPrompt : linesOf (userPrompt fileName code) =
    (fileLine fileName).flatMap linesOf ++ ("Refactor the following component:" ::
      (fence ++ "tsx") :: (linesOf code ++ [fence])) := by
  have htask : linesOf "Refactor the following component:" =
      ["Refactor the following component:"] := linesOf_of_notMem (by decide)
  have hopening : linesOf "\x60\x60\x60tsx" = [fence ++ "tsx"] := linesOf_of_notMem (by decide)
  have hfence : linesOf "\x60\x60\x60" = [fence] := linesOf_of_notMem (by decide)
  rw [userPrompt, linesOf_intercalate (by simp), List.flatMap_append]
  simp only [List.flatMap_cons, List.flatMap_nil, htask, hopening, hfence]
  rfl

/-- A prompt with the name of a file in a line is read from the line with the task on. -/
theorem ofText_userPrompt_eq (h : ∀ name ∈ fileName, '\n' ∉ name.toList) :
    ofText (userPrompt fileName code) = ofBlock (shownName fileName)
      ("Refactor the following component:" :: (fence ++ "tsx") :: (linesOf code ++ [fence])) := by
  have hnone : ofLines ("Refactor the following component:" :: (fence ++ "tsx") ::
      (linesOf code ++ [fence])) = ofBlock none ("Refactor the following component:" ::
        (fence ++ "tsx") :: (linesOf code ++ [fence])) := rfl
  rw [ofText, linesOf_userPrompt]
  cases fileName with
  | none => exact hnone
  | some name =>
      by_cases hempty : name.isEmpty
      · obtain rfl := String.isEmpty_iff.1 hempty
        exact hnone
      · have hline : linesOf ("File: " ++ name) = ["File: " ++ name] := by
          refine linesOf_of_notMem ?_
          rw [String.toList_append]
          exact List.not_mem_append (by decide) (h name rfl)
        have hafter : Text.after? "File: ".toList ("File: " ++ name).toList = some name.toList :=
          Text.after?_eq_some_iff.2 String.toList_append
        have hshown : shownName (some name) = some name := by simp [shownName, hempty]
        rw [fileLine, if_neg hempty, hshown, List.flatMap_singleton, hline]
        simp only [List.singleton_append, ofLines, hafter, String.ofList_toList]

/-- A prompt is read as it was meant if neither the name of the file has several lines nor the code
a line that is a fence, and in no other case. With a name in one line, code with a fence is read
up to the first one, and the rest of it is left behind the block. -/
theorem ofText_userPrompt (fileName : Option String) (code : String) :
    (ofText (userPrompt fileName code) = some ⟨shownName fileName, code, []⟩ ↔
      (∀ name ∈ fileName, '\n' ∉ name.toList) ∧ fence ∉ linesOf code) ∧
    ((∀ name ∈ fileName, '\n' ∉ name.toList) → ∀ before behind,
      linesOf code = before ++ fence :: behind → fence ∉ before →
      ofText (userPrompt fileName code) =
        some ⟨shownName fileName, "\n".intercalate before, behind ++ [fence]⟩) := by
  have hcut : (∀ name ∈ fileName, '\n' ∉ name.toList) → ∀ before behind,
      linesOf code = before ++ fence :: behind → fence ∉ before →
      ofText (userPrompt fileName code) =
        some ⟨shownName fileName, "\n".intercalate before, behind ++ [fence]⟩ := by
    intro hname before behind hlines hbefore
    rw [ofText_userPrompt_eq hname, hlines, List.append_assoc, List.cons_append]
    exact ofBlock_of_fence hbefore
  refine ⟨⟨fun h => ?_, fun ⟨hname, hfence⟩ => ?_⟩, hcut⟩
  · have hname : ∀ name ∈ fileName, '\n' ∉ name.toList := by
      rintro name rfl
      by_cases hempty : name.isEmpty
      · rw [String.isEmpty_iff.1 hempty]
        exact List.not_mem_nil
      · exact notMem_of_ofText h (by simp [shownName, hempty])
    refine ⟨hname, fun hmem => ?_⟩
    -- Behind the first fence of the code at least the one of the prompt is left.
    obtain ⟨before, behind, hlines, hbefore⟩ := List.eq_append_cons_of_mem hmem
    rw [hcut hname before behind hlines hbefore] at h
    simp at h
  · rw [ofText_userPrompt_eq hname, ofBlock_of_fence hfence, intercalate_linesOf]

/-- A fence in the code ends the block, and the rest of the code is left behind. -/
theorem fenced_code_cut : ofText (userPrompt none "a\n\x60\x60\x60\nb") =
    some ⟨none, "a", ["b", "\x60\x60\x60"]⟩ := by
  decide +kernel

end PromptReading

end JsxTidy
