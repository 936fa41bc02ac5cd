import Acquisition.CommandLine.Report

/-!
# Version information
-/

namespace Acquisition.CommandLine

def programName : String := "daqsim"

def programVersion : String := "0.1.0"

/-- Where a program was built, and for what. -/
structure Build where
  os : String := "linux"
  arch : String := "x86_64"
  target : String := "unknown"
  profile : String := "unknown"

def versionLine : String := s!"{programName} {programVersion}"

def extendedVersion (b : Build) : List String := [
  s!"name: {programName}",
  s!"version: {programVersion}",
  s!"target_os: {b.os}",
  s!"target_arch: {b.arch}",
  s!"build_target: {b.target}",
  s!"build_profile: {b.profile}",
  "features: device=true, cli=true",
  s!"protocol: frame {Frame.minSize}..={Frame.maxSize} bytes, crc16/modbus"]

def printVersion (extended : Bool) (b : Build) : Bytes :=
  lines (if extended then extendedVersion b else [versionLine])

end Acquisition.CommandLine
