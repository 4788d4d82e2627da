import MarkupQuery.XPath.Name

/-!
# Faults of expressions

What can be wrong with an expression, found when it is read, when its names are checked or when it
is evaluated, and the code by which the standard knows each fault.
-/

namespace MarkupQuery.XPath

/-- What is wrong with an expression. -/
inductive Fault
  /-- The text is no expression. -/
  | grammar
  /-- A name has a prefix that is not declared. -/
  | undeclaredPrefix
  /-- No such variable is in scope. -/
  | unknownVariable
  /-- There is no function of this name and number of arguments. -/
  | unknownFunction
  /-- There is no type of this name. -/
  | unknownType
  /-- A step goes in a direction that is not supported. -/
  | unsupportedAxis
  /-- No atom can be cast to this type. -/
  | abstractCast
  /-- There is no context item. -/
  | noContext
  /-- Two parameters of a function have one name. -/
  | duplicateParameter
  /-- A value has the wrong type or the wrong number of items. -/
  | wrongType
  /-- Operands of a division to a whole number that are no numbers. -/
  | noQuotient
  /-- A value is not of the type that it is said to have. -/
  | wrongTreat
  /-- A division by zero. -/
  | divisionByZero
  /-- A number is too large, or none. -/
  | overflow
  /-- A number is too large to be cast. -/
  | castOverflow
  /-- A number is too large to be a decimal. -/
  | decimalOverflow
  /-- A double that is no number cannot be cast. -/
  | castInvalid
  /-- A text is not of the form that a type asks for. -/
  | badCast
  /-- A name that is none, or of a type of names that cannot be made. -/
  | badName
  /-- A prefix that is not in scope. -/
  | noNamespace
  /-- A value has no truth value, or its items no sum. -/
  | badArgument
  /-- A value that must have at most one item has more. -/
  | tooMany
  /-- A value that must have items has none. -/
  | noItem
  /-- A value that must have one item has another number of them. -/
  | notOne
  /-- A number is no code point. -/
  | badCodePoint
  /-- There is no collation of this name. -/
  | unknownCollation
  /-- A collation cannot look for one text in another. -/
  | noCollationUnits
  /-- There is no normal form of this name. -/
  | unknownNormalForm
  /-- A text is not a regular expression. -/
  | badPattern
  /-- A flag of a regular expression is unknown. -/
  | badFlag
  /-- A regular expression matches the empty text. -/
  | emptyPattern
  /-- A replacement is not well-formed. -/
  | badReplacement
  /-- A function has no atoms. -/
  | atomizedFunction
  /-- A function has no text. -/
  | functionText
  /-- Functions cannot be compared. -/
  | comparedFunction
  /-- An array has no member of this number. -/
  | noMember
  /-- An array cannot have a negative number of members. -/
  | negativeLength
  /-- Two entries of a map have one key. -/
  | duplicateKey
  /-- Two maps that are merged have one key, which is not allowed. -/
  | duplicateEntry
  /-- An option of a function has no such value. -/
  | badOption
  /-- A function is applied to a wrong number of arguments. -/
  | wrongApply
  /-- A date or a duration is too large. -/
  | dateOverflow
  /-- A duration is multiplied or divided by what is no number. -/
  | badDurationFactor
  /-- A time zone is none. -/
  | badTimezone
  /-- A date and a time that are joined have different time zones. -/
  | twoTimezones
  /-- A resource cannot be read. -/
  | noResource
  /-- A text outside of the document cannot be read. -/
  | noText
  /-- There is no address that others are relative to. -/
  | noBase
  /-- An address is none. -/
  | badAddress
  /-- A function is called within itself too often. -/
  | tooDeep
  /-- A fault that the expression asked for, with its code. -/
  | raised (code : String)
  deriving DecidableEq

/-- The code of a fault. -/
def Fault.code : Fault → String
  | grammar => "XPST0003"
  | undeclaredPrefix => "XPST0081"
  | unknownVariable => "XPST0008"
  | unknownFunction => "XPST0017"
  | unknownType => "XPST0051"
  | unsupportedAxis => "XPST0010"
  | abstractCast => "XPST0080"
  | noContext => "XPDY0002"
  | duplicateParameter => "XQST0039"
  | wrongType => "XPTY0004"
  | noQuotient => "XPST0003"
  | wrongTreat => "XPDY0050"
  | divisionByZero => "FOAR0001"
  | overflow => "FOAR0002"
  | castOverflow => "FOCA0003"
  | decimalOverflow => "FOCA0001"
  | castInvalid => "FOCA0002"
  | badCast => "FORG0001"
  | badName => "FOCA0002"
  | noNamespace => "FONS0004"
  | badArgument => "FORG0006"
  | tooMany => "FORG0003"
  | noItem => "FORG0004"
  | notOne => "FORG0005"
  | badCodePoint => "FOCH0001"
  | unknownCollation => "FOCH0002"
  | noCollationUnits => "FOCH0004"
  | unknownNormalForm => "FOCH0003"
  | badPattern => "FORX0002"
  | badFlag => "FORX0001"
  | emptyPattern => "FORX0003"
  | badReplacement => "FORX0004"
  | atomizedFunction => "FOTY0013"
  | functionText => "FOTY0014"
  | comparedFunction => "FOTY0015"
  | noMember => "FOAY0001"
  | negativeLength => "FOAY0002"
  | duplicateKey => "XQDY0137"
  | duplicateEntry => "FOJS0003"
  | badOption => "FOJS0005"
  | wrongApply => "FOAP0001"
  | dateOverflow => "FODT0001"
  | badDurationFactor => "FOCA0005"
  | badTimezone => "FODT0003"
  | twoTimezones => "FORG0008"
  | noResource => "FODC0002"
  | noText => "FOUT1170"
  | noBase => "FONS0005"
  | badAddress => "FORG0002"
  | tooDeep => "StackOverflow"
  | raised code => code

end MarkupQuery.XPath
