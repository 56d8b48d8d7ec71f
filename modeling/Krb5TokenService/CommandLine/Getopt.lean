import Mathlib.Data.List.Basic

/-! A command line read by the rules of `getopt`, where options and operands may
come in any order. -/
namespace CommandLine

variable {Char : Type}

inductive Arity where
  | flag
  | value
deriving DecidableEq

/-- An option letter with its value, if it takes one. -/
abbrev Setting (Char : Type) := Char × Option (List Char)

structure Arguments (Char : Type) where
  options : List (Setting Char)
  operands : List (List Char)
deriving DecidableEq

namespace Arguments

def withOptions (options : List (Setting Char)) (arguments : Arguments Char) : Arguments Char :=
  { arguments with options := options ++ arguments.options }

def withOperand (operand : List Char) (arguments : Arguments Char) : Arguments Char :=
  { arguments with operands := operand :: arguments.operands }

/-- The value that was first given to an option. -/
def valueOf [DecidableEq Char] (arguments : Arguments Char) (c : Char) : Option (List Char) :=
  (arguments.options.find? fun setting => setting.1 = c).bind Prod.snd

end Arguments

variable [DecidableEq Char] (dash : Char) (arity : Char → Option Arity)

/-- The letters after a dash: flags, up to the first letter that takes a value.
The value is the rest of the argument; if nothing is left, the letter waits for
the next argument. -/
def cluster : List Char → Option (List (Setting Char) × Option Char)
  | [] => some ([], none)
  | c :: rest =>
      match arity c with
      | none => none
      | some .flag => (cluster rest).map fun read => ((c, none) :: read.1, read.2)
      | some .value => if rest = [] then some ([], some c) else some ([(c, some rest)], none)

/-- The arguments that are left, with an option letter that still waits for its
value. A value is taken whatever it begins with; a lone dash is an operand, and
all that follows two dashes is. -/
def getopt : Option Char → List (List Char) → Option (Arguments Char)
  | none, [] => some ⟨[], []⟩
  | some _, [] => none
  | some c, value :: rest => (getopt none rest).map (.withOptions [(c, some value)])
  | none, [] :: rest => (getopt none rest).map (.withOperand [])
  | none, (first :: letters) :: rest =>
      if first ≠ dash ∨ letters = [] then (getopt none rest).map (.withOperand (first :: letters))
      else if letters = [dash] then some ⟨[], rest⟩
      else
        match cluster arity letters with
        | none => none
        | some (options, pending) => (getopt pending rest).map (.withOptions options)

/-- An option as two arguments or one. -/
def render : Setting Char → List (List Char)
  | (c, none) => [[dash, c]]
  | (c, some value) => [[dash, c], value]

/-- The letter is known, and has a value exactly if it takes one. -/
def Fits : Setting Char → Prop
  | (c, none) => c ≠ dash ∧ arity c = some .flag
  | (c, some _) => c ≠ dash ∧ arity c = some .value

variable {dash arity} {c : Char} {rest : List (List Char)}

theorem getopt_operand {operand : List Char} (h : operand.head? ≠ some dash) :
    getopt dash arity none (operand :: rest) =
      (getopt dash arity none rest).map (.withOperand operand) := by
  cases operand with
  | nil => rfl
  | cons first letters =>
      have hFirst : first ≠ dash := by simpa using h
      simp [getopt, hFirst]

theorem getopt_setting {setting : Setting Char} (h : Fits dash arity setting) :
    getopt dash arity none (render dash setting ++ rest) =
      (getopt dash arity none rest).map (.withOptions [setting]) := by
  obtain ⟨c, value⟩ := setting
  cases value with
  | none =>
      obtain ⟨hDash, hArity⟩ := h
      simp [render, getopt, cluster, hDash, hArity]
  | some value =>
      obtain ⟨hDash, hArity⟩ := h
      simp only [render, List.cons_append, List.nil_append, getopt, cluster, hArity, ne_eq,
        not_true_eq_false, List.cons_ne_nil, or_self, if_false, List.cons.injEq, hDash, and_true,
        if_true, Option.map_map]
      rfl

theorem getopt_operands {operands : List (List Char)}
    (h : ∀ operand ∈ operands, operand.head? ≠ some dash) :
    getopt dash arity none operands = some ⟨[], operands⟩ := by
  induction operands with
  | nil => rfl
  | cons operand rest ih =>
      rw [getopt_operand (h operand List.mem_cons_self),
        ih fun other hOther => h other (List.mem_cons_of_mem _ hOther)]
      rfl

/-- Options, then operands that do not begin with a dash, are read back as
they were written. -/
theorem getopt_render {options : List (Setting Char)} {operands : List (List Char)}
    (hOptions : ∀ setting ∈ options, Fits dash arity setting)
    (hOperands : ∀ operand ∈ operands, operand.head? ≠ some dash) :
    getopt dash arity none (options.flatMap (render dash) ++ operands) =
      some ⟨options, operands⟩ := by
  induction options with
  | nil => exact getopt_operands hOperands
  | cons setting rest ih =>
      rw [List.flatMap_cons, List.append_assoc,
        getopt_setting (hOptions setting List.mem_cons_self),
        ih fun other hOther => hOptions other (List.mem_cons_of_mem _ hOther)]
      rfl

end CommandLine
