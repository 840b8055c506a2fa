import CircuitHub.Settings.Basic
import CircuitHub.Settings.Folder

/-!
# The home folder

The settings stand in a file in a folder of the home folder. If there is no such file, nothing is
set, and a file is written that tells what can be set. A file that is there is never changed.

* `load_kept`: what is there is kept, unless no file was there.
-/

namespace CircuitHub

/-- Why there are no settings. -/
inductive SettingsError where
  /-- A folder stands where the file is expected. -/
  | isFolder
  /-- The bytes of the file are not a text. -/
  | notText
  /-- The text is not a document of settings. -/
  | malformed
  deriving DecidableEq, Repr

/-- The error as it is shown. -/
def SettingsError.message : SettingsError → Text
  | isFolder => "config I/O error: Is a directory (os error 21)"
  | notText => "config I/O error: stream did not contain valid UTF-8"
  | malformed => "config parse error"

namespace Settings

/-- The place of all files of the hub. -/
def hubPlace : List Text := [".legion"]

/-- The place of the settings. -/
def place : List Text := hubPlace ++ ["config.toml".toList]

/-- The document that is written if there is none. It sets nothing. -/
def template : Text :=
  "# Electronic Legion Hub Configuration\n" ++
    "# All settings are optional; defaults are used for anything not specified.\n" ++
    "# Override hierarchy: defaults → this file → env vars → CLI flags.\n" ++
    "\n" ++
    "# [general]\n" ++
    "# default_model = \"gemini-3-flash-preview\"   # Or set LEGION_MODEL\n" ++
    "# system_instruction = \"You are an expert Analog Circuit Design Engineer...\"\n" ++
    "# system_instruction_file = \"instruction.md\" # Path relative to ~/.legion/\n" ++
    "# request_timeout_secs = 120                 # 0 waits indefinitely\n" ++
    "\n" ++
    "# [gemini]\n" ++
    "# api_key = \"AIza...\"                        # Or set GEMINI_API_KEY / API_KEY\n" ++
    "# base_url = \"https://generativelanguage.googleapis.com/v1beta\"\n"

/-- The settings in the bytes of a file. -/
def ofBytes (bytes : List UInt8) : Except SettingsError Settings :=
  match Text.decode? bytes with
  | none => .error .notText
  | some document => match read? document with
    | none => .error .malformed
    | some settings => .ok settings

/-- The settings in the home folder, and the home folder afterwards. Where no file can be written,
    nothing is set all the same. -/
def load (home : Folder) : Except SettingsError Settings × Folder :=
  match home.find? place with
  | some (.file bytes) => (ofBytes bytes, home)
  | some (.folder _) => (.error .isFolder, home)
  | none => (.ok unset, (home.write? (Text.encode template) place).getD home)

/-- What is there is kept, unless no file was there. -/
theorem load_kept {home : Folder} (h : (home.find? place).isSome) : (load home).2 = home := by
  obtain ⟨item, hi⟩ := Option.isSome_iff_exists.1 h
  cases item <;> simp [load, hi]

end Settings

end CircuitHub
