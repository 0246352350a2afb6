import Outreach.Decimal.Notation
import Outreach.Text.Characters

/-!
# The prompt for message suggestions

The prompt asks for a number of message variants as a JSON array, names the objective of the
campaign and its audience, and shows the form of the answer.
-/

namespace Outreach.Suggestion

/-- The audience as the prompt names it. -/
def audienceName : Option String → String
  | none | some "" => "general audience"
  | some segment => Text.trimBlanks segment

/-- The prompt. -/
def prompt (objective : String) (segment : Option String) (count : Int) : String :=
  "\n".intercalate
    [s!"Generate exactly {count} marketing message variants as a JSON array. " ++
        "Each variant should have \"subject\" and \"body\" properties.",
      "Campaign Objective: \"" ++ Text.trimBlanks objective ++ "\"",
      "Target Audience: \"" ++ audienceName segment ++ "\"",
      "",
      "The body may use the placeholder \x7bname\x7d for the customer's name.",
      "",
      "Example format:",
      "[",
      "  \x7b",
      "    \"subject\": \"Subject line 1\",",
      "    \"body\": \"Message body 1\"",
      "  \x7d,",
      "  \x7b",
      "    \"subject\": \"Subject line 2\",",
      "    \"body\": \"Message body 2\"",
      "  \x7d",
      "]",
      "",
      "Return ONLY the JSON array, no additional text."]

end Outreach.Suggestion
