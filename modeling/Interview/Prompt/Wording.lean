/-!
# The wording of prompts

A prompt tells the facilitator who it is, what it asks from, what was answered so far, and the one
question to ask. Each line of it is a function of the texts that it shows. Prompts with and without
choices differ in the lines after the question alone.
-/

namespace Interview.Prompt

/-- How the answer to a question is asked for. -/
inductive Layout where
  | plain
  | freeText
  | choice
deriving DecidableEq, Repr

def greetingLine (name slug : String) : String :=
  "You are " ++ name ++ " (" ++ slug ++ "), facilitating a structured discovery interview.\n"

def toneLine (tone : String) : String :=
  "Tone: " ++ tone ++ "\n"

def playbookLine (name identifier category : String) : String :=
  "Playbook: " ++ name ++ " (" ++ identifier ++ ") — category: " ++ category ++ "\n"

def objectiveLine (objective : String) : String :=
  "Playbook objective: " ++ objective ++ "\n"

def phaseLine (phase : String) : String :=
  "Current phase: " ++ phase ++ "\n"

def historyTitle : String := "Previous answers:\n"

/-- One answered question; a skipped one has a mark in place of its answer. -/
def exchangeLine (id question answer : String) : String :=
  "- Q (" ++ id ++ "): " ++ question ++ " → A: " ++ answer ++ "\n"

def skippedMark : String := "(skipped)"

def questionLines (id text : String) : String :=
  "Question ID: " ++ id ++ "\nQuestion: " ++ text ++ "\n"

def freeTextLine : String := "The user answers in their own words.\n"

def multiChoiceTitle : String := "The user may pick one or more of:\n"

def scaleTitle : String := "The user picks one point on this scale:\n"

def singleChoiceTitle : String := "The user picks exactly one of:\n"

def optionLine (option : String) : String :=
  "  - \"" ++ option ++ "\"\n"

/-- What the facilitator is told about this and other questions. -/
def instructionLine (oneAtATime mayMerge : Bool) : String :=
  if oneAtATime then
    "Ask ONLY this one question, and wait for the user response. Do not answer on their behalf.\n"
  else if mayMerge then
    "You may combine this question with a closely related follow-up if it keeps the " ++
      "conversation natural.\n"
  else "Ask this question, and wait for the user response. Do not answer on their behalf.\n"

/-- Why there is no prompt: a field is not there, what should be gone through has no items, or a
number has too many digits to be written. -/
inductive Fault where
  | undefined
  | notIterable
  | longNumber
deriving DecidableEq, Repr

end Interview.Prompt
