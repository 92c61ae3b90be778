import AgentShield.Runtime.Policy

/-!
Fetching an allowed sandbox resource (`runtime/resources.py`), the second half
of the enforcement point. Paths are absolute POSIX paths, as lists of segments;
without symbolic links `Path.resolve` is lexical. What the disk holds is a
parameter.
-/
namespace AgentShield.Resources
open Text Lexical Policy

abbrev Path := List (List Char)

def maxResourceBytes : Nat := 256 * 1024

inductive ReadText where
  | ok (text : String)
  | osError (text : String)
  | undecodable
  deriving DecidableEq

structure RegularFile where
  size : Nat
  text : ReadText

/-- The regular files of the disk; a directory is not one. -/
abbrev Disk := Path → Option RegularFile

inductive ReadError where
  | resourceAccess (text : String)
  | policyBypass (text : String)
  | undecodable
  deriving DecidableEq

/- The segments of a `pathlib` path: empty and `.` segments are dropped, `..` is kept. -/
def parts (s : List Char) : Path :=
  (s.splitOn '/').filter fun raw => raw ≠ [] ∧ raw ≠ ['.']

/- `base / s`: an absolute right operand replaces the left one. -/
def joinPath (base : Path) (s : List Char) : Path :=
  if s.head? = some '/' then parts s else base ++ parts s

def resolve (path : Path) : Path := rooted (path.map segmentMove)

def isRelativeTo (path base : Path) : Bool := base.isPrefixOf path

def relativeTo (path base : Path) : Path := path.drop base.length

def asPosix (path : Path) : String :=
  if path.isEmpty then "." else String.ofList (join '/' path)

def base (root : Path) : Path := resolve root

def sandbox (root : Path) : Path := resolve (joinPath (base root) sandboxRoot.toList)

def target (root : Path) (normalizedPath : String) : Path :=
  resolve (joinPath (base root) normalizedPath.toList)

def readSandboxResource (disk : Disk) (root : Path) (resourcePath : String) :
    Except ReadError String :=
  let decision := evaluate (.text resourcePath)
  match decision.normalizedPath with
  | none => .error (.policyBypass
      ("read_sandbox_resource called with a denied path (" ++ decision.rule.text ++ ")"))
  | some normalizedPath =>
    if decision.allowed = false then
      .error (.policyBypass
        ("read_sandbox_resource called with a denied path (" ++ decision.rule.text ++ ")"))
    else
      let target := target root normalizedPath
      if ¬ isRelativeTo (sandbox root) (base root) ∨ ¬ isRelativeTo target (sandbox root) then
        .error (.policyBypass "resolved resource escapes the sandbox root")
      else
        let resolved := evaluate (.text (asPosix (relativeTo target (base root))))
        if resolved.allowed = false then
          .error (.policyBypass
            ("resolved resource is denied by policy (" ++ resolved.rule.text ++ ")"))
        else match disk target with
          | none => .error (.resourceAccess (normalizedPath ++ " is not a readable file"))
          | some file =>
            if file.size > maxResourceBytes then
              .error (.resourceAccess
                (normalizedPath ++ " is " ++ toString file.size ++ " bytes; the limit is " ++
                  toString maxResourceBytes))
            else match file.text with
              | .ok text => .ok text
              | .osError text => .error (.resourceAccess text)
              | .undecodable => .error .undecodable

end AgentShield.Resources
