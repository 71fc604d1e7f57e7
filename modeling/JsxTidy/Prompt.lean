/-!
# Prompts

What a model is told: its task, and the code to work on in a fenced block.
-/

namespace JsxTidy

/-- The task of a model. -/
def systemPrompt : String :=
  "You are an expert React UI refactor assistant. When you receive a component file:\n"
    ++ "- Clean up Tailwind utility class order (use logical grouping).\n"
    ++ "- Remove unused imports.\n"
    ++ "- Prefer functional components and concise hooks.\n"
    ++ "- Normalize inline styles into Tailwind classes when possible.\n"
    ++ "- Preserve behavior; only improve readability and consistency.\n"
    ++ "Respond with a single JSON object of the form "
    ++ "\x7b\"cleanedCode\": string, \"summary\": string[]\x7d."

/-- The line with the name of a file. An empty name counts as none. -/
def fileLine (fileName : Option String) : List String :=
  match fileName with
  | some name => if name.isEmpty then [] else ["File: " ++ name]
  | none => []

/-- The code of a file for a model, in a fenced block. -/
def userPrompt (fileName : Option String) (code : String) : String :=
  "\n".intercalate (fileLine fileName
    ++ ["Refactor the following component:", "\x60\x60\x60tsx", code, "\x60\x60\x60"])

end JsxTidy
