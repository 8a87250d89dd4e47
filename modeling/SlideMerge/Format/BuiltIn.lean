import SlideMerge.Format.General

/-!
# Built-in number formats

The number formats that workbooks name by a number instead of a code.
-/

namespace SlideMerge.Format

def builtInCodes : List (Nat × String) :=
  [(0, "General"), (1, "0"), (2, "0.00"), (3, "#,##0"), (4, "#,##0.00"),
   (5, "\"$\"#,##0_);(\"$\"#,##0)"), (6, "\"$\"#,##0_);[Red](\"$\"#,##0)"),
   (7, "\"$\"#,##0.00_);(\"$\"#,##0.00)"), (8, "\"$\"#,##0.00_);[Red](\"$\"#,##0.00)"),
   (9, "0%"), (10, "0.00%"), (11, "0.00E+00"), (12, "# ?/?"), (13, "# ??/??"),
   (14, "mm-dd-yy"), (15, "d-mmm-yy"), (16, "d-mmm"), (17, "mmm-yy"), (18, "h:mm AM/PM"),
   (19, "h:mm:ss AM/PM"), (20, "h:mm"), (21, "h:mm:ss"), (22, "m/d/yy h:mm"),
   (37, "#,##0_);(#,##0)"), (38, "#,##0_);[Red](#,##0)"), (39, "#,##0.00_);(#,##0.00)"),
   (40, "#,##0.00_);[Red](#,##0.00)"),
   (41, "_(* #,##0_);_(* \\(#,##0\\);_(* \"-\"_);_(@_)"),
   (42, "_(\"$\"* #,##0_);_(\"$\"* \\(#,##0\\);_(\"$\"* \"-\"_);_(@_)"),
   (43, "_(* #,##0.00_);_(* \\(#,##0.00\\);_(* \"-\"??_);_(@_)"),
   (44, "_(\"$\"* #,##0.00_)_(\"$\"* \\(#,##0.00\\)_(\"$\"* \"-\"??_)_(@_)"),
   (45, "mm:ss"), (46, "[h]:mm:ss"), (47, "mmss.0"), (48, "##0.0E+0"), (49, "@")]

/-- The code of a built-in format; numbers that name none mean the general format. -/
def builtInCode (id : Int) : String :=
  (builtInCodes.lookup id.toNat).getD generalCode

end SlideMerge.Format
