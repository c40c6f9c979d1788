import BrokerClient.Text.Runs
/-!
The bidirectional class of code points (Unicode Character Database, version 17.0, with a partial
list of the additions of version 18.0 and with the Balinese vowel signs U+1B3A, U+1B3C and U+1B42
left to right as that version has them), as far as the rule for right-to-left labels of domain
names tells them apart: right-to-left and Arabic letters are one class, and so are European separators and
terminators, common separators, boundary neutrals and other neutrals. Every other class counts as
`other`.

The table is taken from the code points that the domain mapping keeps as they are, the only ones a
label holds when its direction is checked; any other code point has the class of the run it falls
in. An item is a start in hexadecimal and the class of the code points from it up to the next
start: `l` left-to-right, `r` right-to-left, `n` Arabic number, `e` European number, `o` neutral,
`m` nonspacing mark, `x` other.
-/

namespace BrokerClient.Text

/-- A bidirectional class, as the rule for right-to-left labels groups them. -/
inductive BidiClass where
  | leftToRight
  | rightToLeft
  | arabicNumber
  | europeanNumber
  | neutral
  | nonspacingMark
  | other
  deriving DecidableEq, Repr

/-- Reads the class part of a table item. -/
def BidiClass.ofTag? (s : String) : Option BidiClass :=
  match s with
  | "l" => some .leftToRight
  | "r" => some .rightToLeft
  | "n" => some .arabicNumber
  | "e" => some .europeanNumber
  | "o" => some .neutral
  | "m" => some .nonspacingMark
  | "x" => some .other
  | _ => none

/-- The runs of the class table, a line of items a text. -/
def bidiClassTable : List String := [
  "0o 9x Eo 1Cx 21o 30e 3Ao 61l 7Bo DFl F7o F8l 2B9o 2BBl 2C2o 2D0l 2D2o 2EEl 2EFo 300m 371l 375o 377l 3F6o 3F8l 483m 48Bl 58Ao 58Bl 58Do 591m 5BEr 5BFm 5C0r 5C1m 5C3r 5C4m 5C6r 5C7m",
  "5D0r 606o 608r 609o 60Br 60Co 60Dr 60Eo 610m 61Br 64Bm 660n 66Ao 66Bn 66Dr 670m 671r 6D6m 6DEo 6DFm 6E5r 6E7m 6E9o 6EAm 6EEr 6F0e 6FAr 711m 712r 730m 74Dr 7A6m 7B1r 7EBm 7F4r 7F6o",
  "7FAr 7FDm 7FEr 816m 81Ar 81Bm 824r 825m 828r 829m 830r 859m 85Er 897m 8A0r 8CAm 903l 93Am 93Bl 93Cm 93Dl 941m 949l 94Dm 94El 951m 960l 962m 964l 981m 982l 9BCm 9BDl 9C1m 9C7l 9CDm",
  "9CEl 9E2m 9E6l 9F2o 9F4l 9FBo 9FCl 9FEm A03l A3Cm A3El A41m A5Cl A70m A72l A75m A76l A81m A83l ABCm ABDl AC1m AC9l ACDm AD0l AE2m AE6l AF1o AF9l AFAm B02l B3Cm B3Dl B3Fm B40l B41m",
  "B47l B4Dm B57l B62m B66l B82m B83l BC0m BC1l BCDm BD0l BF3o C00m C01l C04m C05l C3Cm C3Dl C3Em C41l C46m C58l C62m C66l C78o C7Fl C81m C82l CBCm CBDl CCCm CD5l CE2m CE6l D00m D02l",
  "D3Bm D3Dl D41m D46l D4Dm D4El D62m D66l D81m D82l DCAm DCFl DD2m DD8l E31m E32l E34m E3Fo E40l E47m E4Fl EB1m EB2l EB4m EBDl EC8m ED0l F18m F1Al F35m F36l F37m F38l F39m F3Ao F3El",
  "F71m F7Fl F80m F85l F86m F88l F8Dm FBEl FC6m FC7l 102Dm 1031l 1032m 1038l 1039m 103Bl 103Dm 103Fl 1058m 105Al 105Em 1061l 1071m 1075l 1082m 1083l 1085m 1087l 108Dm 108El 109Dm",
  "109El 135Dm 1360l 1390o 13A0l 1400o 1401l 169Bo 16A0l 1712m 1715l 1732m 1734l 1752m 1760l 1772m 1780l 17B7m 17BEl 17C6m 17C7l 17C9m 17D4l 17DBo 17DCl 17DDm 17E0l 17F0o 1810l 1885m",
  "1887l 18A9m 18AAl 1920m 1923l 1927m 1929l 1932m 1933l 1939m 1940o 1946l 19DEo 1A00l 1A17m 1A19l 1A1Bm 1A1El 1A56m 1A57l 1A58m 1A61l 1A62m 1A63l 1A65m 1A6Dl 1A73m 1A80l 1AB0m 1B04l",
  "1B34m 1B35l 1B36m 1B3Al 1B6Bm 1B74l 1B80m 1B82l 1BA2m 1BA6l 1BA8m 1BAAl 1BABm 1BAEl 1BE6m 1BE7l 1BE8m 1BEAl 1BEDm 1BEEl 1BEFm 1BF2l 1C2Cm 1C34l 1C36m 1C3Bl 1CD0m 1CD3l 1CD4m 1CE1l",
  "1CE2m 1CE9l 1CEDm 1CEEl 1CF4m 1CF5l 1CF8m 1CFAl 1DC0m 1E01l 200Co 208Fl 20A0o 20D0m 2104o 214El 218Ao 2336l 237Bo 2395l 2396o 26ACl 26ADo 2800l 2900o 2C30l 2CE5o 2CECl 2CEFm 2CF3l",
  "2CF9o 2D00l 2D7Fm 2D80l 2DE0m 2E00o 3005l 3008o 3021l 302Am 302El 3030o 3031l 3037o 303Bl 303Do 3041l 3099m 309Dl 30A0o 30A1l 30FBo 30FCl 31C0o 31F0l 4DC0o 4E00l A490o A4D0l A60Do",
  "A610l A66Fm A673o A674m A67Eo A681l A69Em A6A0l A6F0m A6F2l A700o A723l A788o A789l A802m A803l A806m A807l A80Bm A80Cl A825m A827l A828o A82Cm A830l A838o A840l A874o A880l A8C4m",
  "A8CEl A8E0m A8F2l A8FFm A900l A926m A92El A947m A952l A980m A983l A9B3m A9B4l A9B6m A9BAl A9BCm A9BEl A9E5m A9E6l AA29m AA2Fl AA31m AA33l AA35m AA40l AA43m AA44l AA4Cm AA4Dl AA7Cm",
  "AA7Dl AAB0m AAB1l AAB2m AAB5l AAB7m AAB9l AABEm AAC0l AAC1m AAC2l AAECm AAEEl AAF6m AB01l AB6Ao AB6Cl ABE5m ABE6l ABE8m ABE9l ABEDm ABF0l FB1Em FBB2r FBC3o FE20m FE45o FE73r 10000l",
  "10101o 10102l 10140o 1018Dl 10190o 101D0l 101FDm 10280l 102E0m 102E1e 10300l 10376m 10380l 10800r 1091Fo 10920r 10A01m 10A10r 10A38m 10A40r 10AE5m 10AEBr 10B39o 10B40r 10D24m",
  "10D30n 10D4Ar 10D69m 10D6Eo 10D6Fr 10E60n 10E80r 10EABm 10EADr 10ECBm 10ED0o 10ED9r 10EF0m 10F00r 10F46m 10F51r 10F82m 10F86r 11000l 11001m 11002l 11038m 11047l 11052o 11066l",
  "11070m 11071l 11073m 11075l 1107Fm 11082l 110B3m 110B7l 110B9m 110BBl 110C2m 110D0l 11100m 11103l 11127m 1112Cl 1112Dm 11136l 11173m 11174l 11180m 11182l 111B6m 111BFl 111C9m",
  "111CDl 111CFm 111D0l 1122Fm 11232l 11234m 11235l 11236m 11238l 1123Em 1123Fl 11241m 11280l 112DFm 112E0l 112E3m 112F0l 11300m 11302l 1133Bm 1133Dl 11340m 11341l 11366m 11380l",
  "113BBm 113C2l 113CEm 113CFl 113D0m 113D1l 113D2m 113D3l 113E1m 11400l 11438m 11440l 11442m 11445l 11446m 11447l 1145Em 1145Fl 114B3m 114B9l 114BAm 114BBl 114BFm 114C1l 114C2m",
  "114C4l 115B2m 115B8l 115BCm 115BEl 115BFm 115C1l 115DCm 11600l 11633m 1163Bl 1163Dm 1163El 1163Fm 11641l 11660o 11680l 116ABm 116ACl 116ADm 116AEl 116B0m 116B6l 116B7m 116B8l",
  "1171Dm 1171El 1171Fm 11720l 11722m 11726l 11727m 11730l 1182Fm 11838l 11839m 1183Bl 1193Bm 1193Dl 1193Em 1193Fl 11943m 11944l 119D4m 119DCl 119E0m 119E1l 11A01m 11A07l 11A09m",
  "11A0Bl 11A33m 11A39l 11A3Bm 11A3Fl 11A47m 11A50l 11A51m 11A57l 11A59m 11A5Cl 11A8Am 11A97l 11A98m 11A9Al 11B60m 11B61l 11B62m 11B65l 11B66m 11B67l 11C30m 11C3El 11C92m 11CA9l",
  "11CAAm 11CB1l 11CB2m 11CB4l 11CB5m 11D00l 11D31m 11D46l 11D47m 11D50l 11D90m 11D93l 11D95m 11D96l 11D97m 11D98l 11DF0m 11DF1l 11EF3m 11EF5l 11F00m 11F02l 11F36m 11F3El 11F40m",
  "11F41l 11F42m 11F43l 11F5Am 11FB0l 11FD5o 11FFFl 13440m 13441l 13447m 13460l 1611Em 1612Al 1612Dm 16130l 16AF0m 16AF5l 16B30m 16B37l 16F4Fm 16F50l 16F8Fm 16F93l 16FE2o 16FE3l",
  "16FE4m 16FF0l 1BC9Dm 1BC9Fl 1CC00o 1CF00m 1CF50l 1D127m 1D129l 1D167m 1D16Al 1D17Bm 1D183l 1D185m 1D18Cl 1D1AAm 1D1AEl 1D1E9o 1D1EBl 1D200o 1D242m 1D245o 1D250l 1D25Bm 1D260l",
  "1D300o 1D360l 1DA00m 1DA37l 1DA3Bm 1DA6Dl 1DA75m 1DA76l 1DA84m 1DA85l 1DA9Bm 1DB00o 1DF00l 1E000m 1E100l 1E130m 1E137l 1E2AEm 1E2C0l 1E2ECm 1E2F0l 1E2FFo 1E4D0l 1E4ECm 1E4F0l",
  "1E5EEm 1E5F0l 1E6E3m 1E6E4l 1E6E6m 1E6E7l 1E6EEm 1E6F0l 1E6F5m 1E6FEl 1E800r 1E8D0m 1E922r 1E944m 1E94Br 1EEF0o 1F150l 1F16Do 1F170l 1F1ADo 1F1AEl 1F260o 1F7DAl 1F7E0o 1F7F1l",
  "1F800o 20000l"]

/-- The class table, read. -/
def bidiClasses : Runs BidiClass :=
  Runs.ofLines BidiClass.ofTag? bidiClassTable

/-- The bidirectional class of a code point. -/
def bidiClass (c : Char) : BidiClass :=
  (bidiClasses.get? c.toNat).getD .other

end BrokerClient.Text
