import BrokerClient.Text.Runs
/-!
Combining marks and viramas (Unicode Character Database, version 17.0, with a partial list of the
additions of version 18.0). A combining mark is a code point of general category mark
(nonspacing, spacing or enclosing); a virama has canonical combining class 9.

Both tables are taken from the code points that the domain mapping keeps as they are, the only
ones a label holds when its marks and joiners are checked; any other code point has the value of
the run it falls in. An item is a start in hexadecimal and `m` or `v` when the code points from
it up to the next start have the property, `o` when they do not.
-/

namespace BrokerClient.Text

/-- The runs of combining marks, a line of items a text. -/
def markTable : List String := [
  "0o 300m 371o 483m 48Bo 591m 5BEo 5BFm 5C0o 5C1m 5C3o 5C4m 5C6o 5C7m 5D0o 610m 61Bo 64Bm 660o 670m 671o 6D6m 6DEo 6DFm 6E5o 6E7m 6E9o 6EAm 6EEo 711m 712o 730m 74Do 7A6m 7B1o 7EBm",
  "7F4o 7FDm 7FEo 816m 81Ao 81Bm 824o 825m 828o 829m 830o 859m 85Eo 897m 8A0o 8CAm 904o 93Am 93Do 93Em 950o 951m 960o 962m 964o 981m 985o 9BCm 9BDo 9BEm 9CEo 9D7m 9E0o 9E2m 9E6o 9FEm",
  "A05o A3Cm A5Co A70m A72o A75m A76o A81m A85o ABCm ABDo ABEm AD0o AE2m AE6o AFAm B05o B3Cm B3Do B3Em B5Fo B62m B66o B82m B83o BBEm BD0o BD7m BE6o C00m C05o C3Cm C3Do C3Em C58o C62m",
  "C66o C81m C84o CBCm CBDo CBEm CDCo CE2m CE6o CF3m D04o D3Bm D3Do D3Em D4Eo D57m D58o D62m D66o D81m D85o DCAm DE6o DF2m DF4o E31m E32o E34m E3Fo E47m E4Fo EB1m EB2o EB4m EBDo EC8m",
  "ED0o F18m F1Ao F35m F36o F37m F38o F39m F3Ao F3Em F40o F71m F85o F86m F88o F8Dm FBEo FC6m FC7o 102Bm 103Fo 1056m 105Ao 105Em 1061o 1062m 1065o 1067m 106Eo 1071m 1075o 1082m 108Eo",
  "108Fm 1090o 109Am 109Eo 135Dm 1360o 1712m 171Fo 1732m 1735o 1752m 1760o 1772m 1780o 17B6m 17D4o 17DDm 17E0o 1885m 1887o 18A9m 18AAo 1920m 1940o 1A17m 1A1Eo 1A55m 1A80o 1AB0m 1B05o",
  "1B34m 1B45o 1B6Bm 1B74o 1B80m 1B83o 1BA1m 1BAEo 1BE6m 1BFCo 1C24m 1C3Bo 1CD0m 1CD3o 1CD4m 1CE9o 1CEDm 1CEEo 1CF4m 1CF5o 1CF7m 1CFAo 1DC0m 1E01o 20D0m 2104o 2CEFm 2CF3o 2D7Fm 2D80o",
  "2DE0m 2E00o 302Am 3030o 3099m 309Do A66Fm A673o A674m A67Eo A69Em A6A0o A6F0m A6F2o A802m A803o A806m A807o A80Bm A80Co A823m A828o A82Cm A830o A880m A882o A8B4m A8CEo A8E0m A8F2o",
  "A8FFm A900o A926m A92Eo A947m A95Fo A980m A984o A9B3m A9C1o A9E5m A9E6o AA29m AA40o AA43m AA44o AA4Cm AA50o AA7Bm AA7Eo AAB0m AAB1o AAB2m AAB5o AAB7m AAB9o AABEm AAC0o AAC1m AAC2o",
  "AAEBm AAF0o AAF5m AB01o ABE3m ABEBo ABECm ABF0o FB1Em FBB2o FE20m FE45o 101FDm 10280o 102E0m 102E1o 10376m 10380o 10A01m 10A10o 10A38m 10A40o 10AE5m 10AEBo 10D24m 10D30o 10D69m",
  "10D6Eo 10EABm 10EADo 10ECBm 10ED0o 10EF0m 10F00o 10F46m 10F51o 10F82m 10F86o 11000m 11003o 11038m 11047o 11070m 11071o 11073m 11075o 1107Fm 11083o 110B0m 110BBo 110C2m 110D0o",
  "11100m 11103o 11127m 11136o 11145m 11147o 11173m 11174o 11180m 11183o 111B3m 111C1o 111C9m 111CDo 111CEm 111D0o 1122Cm 11238o 1123Em 1123Fo 11241m 11280o 112DFm 112F0o 11300m",
  "11305o 1133Bm 1133Do 1133Em 11350o 11357m 1135Do 11362m 11380o 113B8m 113D1o 113D2m 113D3o 113E1m 11400o 11435m 11447o 1145Em 1145Fo 114B0m 114C4o 115AFm 115C1o 115DCm 11600o",
  "11630m 11641o 116ABm 116B8o 1171Dm 11730o 1182Cm 1183Bo 11930m 1193Fo 11940m 11941o 11942m 11944o 119D1m 119E1o 119E4m 11A00o 11A01m 11A0Bo 11A33m 11A3Ao 11A3Bm 11A3Fo 11A47m",
  "11A50o 11A51m 11A5Co 11A8Am 11A9Ao 11B60m 11BC0o 11C2Fm 11C40o 11C92m 11D00o 11D31m 11D46o 11D47m 11D50o 11D8Am 11D98o 11DF0m 11DF1o 11EF3m 11EF7o 11F00m 11F02o 11F03m 11F04o",
  "11F34m 11F43o 11F5Am 11FB0o 13440m 13441o 13447m 13460o 1611Em 16130o 16AF0m 16AF5o 16B30m 16B37o 16F4Fm 16F50o 16F51m 16F93o 16FE4m 16FF2o 1BC9Dm 1BC9Fo 1CF00m 1CF50o 1D127m",
  "1D129o 1D165m 1D16Ao 1D16Dm 1D183o 1D185m 1D18Co 1D1AAm 1D1AEo 1D242m 1D245o 1D250m 1D253o 1D25Bm 1D260o 1DA00m 1DA37o 1DA3Bm 1DA6Do 1DA75m 1DA76o 1DA84m 1DA85o 1DA9Bm 1DB00o",
  "1E000m 1E100o 1E130m 1E137o 1E2AEm 1E2C0o 1E2ECm 1E2F0o 1E4ECm 1E4F0o 1E5EEm 1E5F0o 1E6E3m 1E6E4o 1E6E6m 1E6E7o 1E6EEm 1E6F0o 1E6F5m 1E6FEo 1E8D0m 1E922o 1E944m 1E94Bo"]

/-- The runs of viramas, a line of items a text. -/
def viramaTable : List String := [
  "0o 94Dv 94Eo 9CDv 9CEo A4Dv A51o ACDv AD0o B4Dv B53o BCDv BD0o C4Dv C55o CCDv CD5o D3Bv D3Do D4Dv D4Eo DCAv DCFo E3Av E3Fo EBAv EBBo F84v F85o 1039v 103Bo 1714v 171Fo 1734v 1735o",
  "17D2v 17D3o 1A60v 1A61o 1B44v 1B45o 1BAAv 1BACo 1BF2v 1BFCo 2D7Fv 2D80o A806v A807o A82Cv A830o A8C4v A8C5o A953v A95Fo A9C0v A9C1o AAF6v AB01o ABEDv ABF0o 10A3Fv 10A40o 11046v",
  "11047o 11070v 11071o 1107Fv 11080o 110B9v 110BAo 11133v 11136o 111C0v 111C1o 11235v 11236o 112EAv 112F0o 1134Dv 11350o 113CEv 113D1o 11442v 11443o 114C2v 114C3o 115BFv 115C0o",
  "1163Fv 11640o 116B6v 116B7o 1172Bv 11730o 11839v 1183Ao 1193Dv 1193Fo 119E0v 119E1o 11A34v 11A35o 11A47v 11A50o 11A99v 11A9Ao 11C3Fv 11C40o 11D44v 11D46o 11D97v 11D98o 11F41v",
  "11F43o 1612Fv 16130o"]
/-- Reads whether a run has a property, given the tag that says it has. -/
def flagOfTag? (yes : String) (s : String) : Option Bool :=
  if s == yes then some true else if s == "o" then some false else none

/-- The table of combining marks, read. -/
def marks : Runs Bool := Runs.ofLines (flagOfTag? "m") markTable

/-- The table of viramas, read. -/
def viramas : Runs Bool := Runs.ofLines (flagOfTag? "v") viramaTable

/-- Whether a code point is a combining mark. -/
def isMark (c : Char) : Bool := (marks.get? c.toNat).getD false

/-- Whether a code point is a virama. -/
def isVirama (c : Char) : Bool := (viramas.get? c.toNat).getD false

end BrokerClient.Text
