import Switchboard.Path

/-!
# Platforms

The name of the engine's library on each platform, where the library is found, and what is written
when the binding is built for a platform.
-/

namespace Switchboard.Platform

/-- The file name of the library on an operating system. -/
def libraryName (os : String) : String :=
  if os = "windows" then "opal.dll"
  else if os = "macos" ∨ os = "ios" then "libopal.dylib"
  else "libopal.so"

/-- The path of the library: the one the environment gives, unless it is empty, else the file name
on an operating system. -/
def libraryPath (os : String) (environment : Option Path) : Path :=
  match environment with
  | some path => if path.bytes = [] then .ofString (libraryName os) else path
  | none => .ofString (libraryName os)

/-! ## Building -/

/-- A part of the binding that is built by itself. -/
inductive Part
  /-- The binding that applications use. -/
  | binding
  /-- The declarations of the engine's interface. -/
  | declarations
  deriving DecidableEq, Repr

/-- The name of a part. -/
def Part.name : Part → String
  | .binding => "opal"
  | .declarations => "opal-sys"

/-- The part with a given name. -/
def Part.ofName? (s : String) : Option Part :=
  [Part.binding, .declarations].find? fun p => p.name = s

/-- What building a part writes: lines to the build system, and a file if there is one. -/
structure Build where
  lines : List String
  file : Option String
  deriving DecidableEq, Repr

/-- The file that tells the binding the name of the library. -/
def constantsFile (os : String) : String :=
  "pub const OPAL_LIBRARY_NAME: &str = \"" ++ libraryName os ++ "\";\n"

/-- Builds a part for an operating system; an unknown one has the empty name. -/
def build (part : Part) (os : String) : Build :=
  match part with
  | .binding => ⟨["cargo:rerun-if-changed=build.rs"], some (constantsFile os)⟩
  | .declarations =>
    ⟨["cargo:rerun-if-changed=build.rs", "cargo:rerun-if-changed=wrapper.h"], none⟩

end Switchboard.Platform
