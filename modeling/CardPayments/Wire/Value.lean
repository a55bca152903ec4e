import CardPayments.Json.Record
import CardPayments.Reversal

/-! # JSON forms of single values

Amounts and decimals are written as texts with all digits of their scale, identifiers and points in
time as texts, and cases without data by their names. -/
set_option autoImplicit false

namespace CardPayments

def Amount.ofJson (j : Json) : Option Amount := j.readDecimal.bind Amount.ofDecimal?

def Amount.toJson (a : Amount) : Json := Json.ofDecimal a.value

def Currency.ofJson (j : Json) : Option Currency := j.readString.bind Currency.ofText?

def Currency.toJson (currency : Currency) : Json := .string currency.code

def Uuid.ofJson (j : Json) : Option Uuid := j.readString.bind fun s => Uuid.ofList? s.toList

def Uuid.toJson (u : Uuid) : Json := .string u.toText

def Instant.ofJson (j : Json) : Option Instant :=
  j.readString.bind fun s => Instant.ofList? s.toList

def Instant.toJson (t : Instant) : Json := .string t.toText

def Pan.ofJson (j : Json) : Option Pan := j.readString.map Pan.mk

def ResponseCode.ofJson (j : Json) : Option ResponseCode := j.readString.map ResponseCode.mk

def ResponseCode.toJson (code : ResponseCode) : Json := .string code.text

def Scheme.ofJson (j : Json) : Option Scheme := j.readName.bind Scheme.ofName?

def Scheme.toJson (scheme : Scheme) : Json := .string scheme.name

def Status.ofJson (j : Json) : Option Status := j.readName.bind Status.ofName?

def Status.toJson (status : Status) : Json := .string status.name

def Exemption.ofJson (j : Json) : Option Exemption := j.readName.bind Exemption.ofName?

def Exemption.toJson (exemption : Exemption) : Json := .string exemption.name

def Initiator.ofJson (j : Json) : Option Initiator := j.readName.bind Initiator.ofName?

def Initiator.toJson (initiator : Initiator) : Json := .string initiator.name

def CaptureStatus.ofJson (j : Json) : Option CaptureStatus := j.readName.bind CaptureStatus.ofName?

def CaptureStatus.toJson (status : CaptureStatus) : Json := .string status.name

def ReversalStatus.ofJson (j : Json) : Option ReversalStatus :=
  j.readName.bind ReversalStatus.ofName?

def ReversalStatus.toJson (status : ReversalStatus) : Json := .string status.name

end CardPayments
