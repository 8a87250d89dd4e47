import SlideMerge.Mapping.Table
import SlideMerge.Text.Blank

/-!
# Registered mapping tables

One table for each family of templates. All references are to row 2 of the worksheet, which holds
the project that is reported on. A caller that names no registered table gets the default one.
-/

namespace SlideMerge.Mapping

open Text Placeholder

/-- The id of the table that is used unless another one is asked for. -/
def defaultTableId : String := "org_change"

/-- The display text of one cell. -/
def cellAt (ref : String) : Spec := .cell ref

/-- The texts of two cells with a space between them. -/
def joinOf (first second : String) : Spec := .join [first, second] Spec.defaultSeparator

/-- A fixed text for what the worksheet does not tell. -/
def notKnown : Spec := .const notAvailable

/-- The table for decks on a change of organization. -/
def organizationChange : Table where
  id := "org_change"
  label := "Organization Change"
  description := "Upload the org change PPTX template + Excel file to generate the filled deck."
  slides := [
    { page := 1, placeholders := [
        ("NAME OF PROJECT", cellAt "F2"), ("TYPE OF PROJECT", cellAt "K2")] },
    { page := 3, placeholders := [("[Description]", cellAt "M2")] },
    { page := 4, placeholders := [
        ("[L2/L3]", cellAt "I2"), ("[Owner]", cellAt "G2"), ("[Lead]", cellAt "H2"),
        ("[Comms]", cellAt "J2")] },
    { page := 5, placeholders := [("[Date]", cellAt "N2"), ("[Phases]", cellAt "P2")] },
    { page := 6, placeholders := [
        ("[1]", cellAt "Q2"), ("[2]", cellAt "R2"), ("[3]", joinOf "S2" "T2"),
        ("[4]", cellAt "V2")] },
    { page := 7, placeholders := [("[1]", cellAt "W2")] },
    { page := 8, placeholders := [
        ("[1]", cellAt "L2"), ("[2]", joinOf "AA2" "AB2"), ("[3]", cellAt "Y2")] },
    { page := 9, placeholders := [("[1]", cellAt "Z2"), ("[2]", cellAt "AD2")] },
    { page := 10, placeholders := [("[1]", cellAt "AF2"), ("[2]", cellAt "AG2")] },
    { page := 11, placeholders := [("[1]", cellAt "DG2"), ("[2]", cellAt "DI2")] }]

/-- The table for decks on new tools, surveys and trainings. -/
def newTools : Table where
  id := "new_tools"
  label := "New Tools / Surveys / Trainings"
  description :=
    "Upload the New Tools/Surveys/Trainings template + Excel file to generate the filled deck."
  slides := [
    { page := 1, placeholders := [
        ("NAME OF PROJECT", cellAt "F2"), ("TYPE OF PROJECT", cellAt "K2")] },
    { page := 3, placeholders := [("[1]", cellAt "BZ2")] },
    { page := 4, placeholders := [
        ("[1]", cellAt "I2"), ("[2]", notKnown), ("[3]", cellAt "G2"), ("[4]", cellAt "H2"),
        ("[5]", cellAt "J2")] },
    { page := 5, placeholders := [("[1]", cellAt "CA2"), ("[2]", notKnown)] },
    { page := 6, placeholders := [
        ("[1]", notKnown), ("[2]", notKnown), ("[3]", notKnown), ("[4]", notKnown)] },
    { page := 7, placeholders := [("[1]", notKnown)] },
    { page := 8, placeholders := [
        ("[1]", cellAt "BW2"), ("[2]", joinOf "CD2" "CE2"), ("[3]", cellAt "CC2")] },
    { page := 9, placeholders := [
        ("[1]", cellAt "BX2"), ("[2]", cellAt "CH2"), ("[3]", cellAt "CI2"),
        ("[4]", cellAt "BN2")] },
    { page := 10, placeholders := [
        ("[1]", cellAt "CJ2"), ("[2]", cellAt "CK2"), ("[3]", cellAt "CL2"),
        ("[4]", cellAt "CM2"), ("[5]", cellAt "CN2"), ("[6]", cellAt "CO2"),
        ("[7]", cellAt "CP2")] },
    { page := 11, placeholders := [
        ("[1]", cellAt "CQ2"), ("[2]", cellAt "CR2"), ("[3]", cellAt "CS2"),
        ("[4]", cellAt "CT2"), ("[5]", cellAt "CU2"), ("[6]", cellAt "CV2"),
        ("[7]", cellAt "CX2")] },
    { page := 12, placeholders := [
        ("[1]", cellAt "CY2"), ("[2]", cellAt "CZ2"), ("[3]", cellAt "DB2"),
        ("[4]", cellAt "DC2")] },
    { page := 13, placeholders := [("[1]", cellAt "DG2"), ("[2]", cellAt "DI2")] }]

/-- The registered tables, in the order of their registration. -/
def registeredTables : List Table :=
  [organizationChange, newTools]

def registered? (id : String) : Option Table :=
  registeredTables.find? fun t => t.id = id

/-- The table that a caller gets: the one with the id asked for, blanks around it apart, else the
one with the id `fallback`, else the default one. -/
def tableFor (id : Option String) (fallback : String) : Table :=
  let key := String.ofList (trim (id.getD "").toList)
  (registered? key).getD ((registered? fallback).getD organizationChange)

end SlideMerge.Mapping
