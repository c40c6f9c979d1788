import BrokerClient.Text.Runs
/-!
How code points enter an international domain name, by the mapping table of Unicode IDNA
Compatibility Processing (UTS #46), version 17.0, with a partial list of the additions of version
18.0, read with nontransitional processing and without the STD3 restrictions: a code point is
valid as it is, ignored, disallowed, or mapped to other code points (case folding, compatibility
forms, full-width and other variants). An addition that is mapped to a target not listed here is
written as shifted by zero: it stands for itself in a name but is not valid as it is.

The table is a list of runs. An item is a start in hexadecimal and the status of the code points
from it up to the next start: `v` valid, `i` ignored, `x` disallowed, `pH` and `nH` mapped to the
code point `H` above or below, and `mH,H,...` mapped to those code points.
-/

namespace BrokerClient.Text

/-- The status of a code point in a domain name. -/
inductive DomainStatus where
  /-- The code point stays. -/
  | valid
  /-- The code point is dropped. -/
  | ignored
  /-- The code point makes the name invalid. -/
  | disallowed
  /-- The code point becomes the one at this offset from it. -/
  | shifted (offset : Int)
  /-- The code point becomes these code points. -/
  | mapped (image : List Char)
  deriving DecidableEq, Repr

/-- Reads the status part of a table item. -/
def DomainStatus.ofTag? (s : String) : Option DomainStatus :=
  match s.toList with
  | ['v'] => some .valid
  | ['i'] => some .ignored
  | ['x'] => some .disallowed
  | 'p' :: rest => (Runs.upperHex? (String.ofList rest)).map fun n => .shifted n
  | 'n' :: rest => (Runs.upperHex? (String.ofList rest)).map fun n => .shifted (-(n : Int))
  | 'm' :: rest =>
    ((String.ofList rest).splitOn ",").mapM (fun h => (Runs.upperHex? h).map Char.ofNat)
      |>.map .mapped
  | _ => none

/-- The runs of the mapping table, a line of items a text. -/
def domainMappingTable : List String := [
  "0v 41p20 5Bv 80x A0n80 A1v A8m20,308 A9v AAn49 ABv ADi AEv AFm20,304 B0v B2n80 B4m20,301 B5p307 B6v B8m20,327 B9n88 BAn4B BBv BCm31,2044,34 BDm31,2044,32 BEm33,2044,34 BFv C0p20",
  "D7v D8p20 DFv 100p1 101v 102p1 103v 104p1 105v 106p1 107v 108p1 109v 10Ap1 10Bv 10Cp1 10Dv 10Ep1 10Fv 110p1 111v 112p1 113v 114p1 115v 116p1 117v 118p1 119v 11Ap1 11Bv 11Cp1 11Dv",
  "11Ep1 11Fv 120p1 121v 122p1 123v 124p1 125v 126p1 127v 128p1 129v 12Ap1 12Bv 12Cp1 12Dv 12Ep1 12Fv 130m69,307 131v 132m69,6A 134p1 135v 136p1 137v 139p1 13Av 13Bp1 13Cv 13Dp1 13Ev",
  "13Fm6C,B7 141p1 142v 143p1 144v 145p1 146v 147p1 148v 149m2BC,6E 14Ap1 14Bv 14Cp1 14Dv 14Ep1 14Fv 150p1 151v 152p1 153v 154p1 155v 156p1 157v 158p1 159v 15Ap1 15Bv 15Cp1 15Dv 15Ep1",
  "15Fv 160p1 161v 162p1 163v 164p1 165v 166p1 167v 168p1 169v 16Ap1 16Bv 16Cp1 16Dv 16Ep1 16Fv 170p1 171v 172p1 173v 174p1 175v 176p1 177v 178n79 179p1 17Av 17Bp1 17Cv 17Dp1 17Ev",
  "17Fn10C 180v 181pD2 182p1 183v 184p1 185v 186pCE 187p1 188v 189pCD 18Bp1 18Cv 18Ep4F 18FpCA 190pCB 191p1 192v 193pCD 194pCF 195v 196pD3 197pD1 198p1 199v 19CpD3 19DpD5 19Ev 19FpD6",
  "1A0p1 1A1v 1A2p1 1A3v 1A4p1 1A5v 1A6pDA 1A7p1 1A8v 1A9pDA 1AAv 1ACp1 1ADv 1AEpDA 1AFp1 1B0v 1B1pD9 1B3p1 1B4v 1B5p1 1B6v 1B7pDB 1B8p1 1B9v 1BCp1 1BDv 1C4m64,17E 1C7m6C,6A 1CAm6E,6A",
  "1CDp1 1CEv 1CFp1 1D0v 1D1p1 1D2v 1D3p1 1D4v 1D5p1 1D6v 1D7p1 1D8v 1D9p1 1DAv 1DBp1 1DCv 1DEp1 1DFv 1E0p1 1E1v 1E2p1 1E3v 1E4p1 1E5v 1E6p1 1E7v 1E8p1 1E9v 1EAp1 1EBv 1ECp1 1EDv",
  "1EEp1 1EFv 1F1m64,7A 1F4p1 1F5v 1F6n61 1F7n38 1F8p1 1F9v 1FAp1 1FBv 1FCp1 1FDv 1FEp1 1FFv 200p1 201v 202p1 203v 204p1 205v 206p1 207v 208p1 209v 20Ap1 20Bv 20Cp1 20Dv 20Ep1 20Fv",
  "210p1 211v 212p1 213v 214p1 215v 216p1 217v 218p1 219v 21Ap1 21Bv 21Cp1 21Dv 21Ep1 21Fv 220n82 221v 222p1 223v 224p1 225v 226p1 227v 228p1 229v 22Ap1 22Bv 22Cp1 22Dv 22Ep1 22Fv",
  "230p1 231v 232p1 233v 23Ap2A2B 23Bp1 23Cv 23DnA3 23Ep2A28 23Fv 241p1 242v 243nC3 244p45 245p47 246p1 247v 248p1 249v 24Ap1 24Bv 24Cp1 24Dv 24Ep1 24Fv 2B0n248 2B1n4B 2B2n248 2B3n241",
  "2B4n3B 2B5n3A 2B6n35 2B7n240 2B8n23F 2B9v 2D8m20,306 2D9m20,307 2DAm20,30A 2DBm20,328 2DCm20,303 2DDm20,30B 2DEv 2E0n7D 2E1n275 2E2n26F 2E3n26B 2E4n4F 2E5v 340n40 342v 343n30",
  "344m308,301 345p74 346v 34Fi 350v 370p1 371v 372p1 373v 374nBB 375v 376p1 377v 378x 37Am20,3B9 37Bv 37En343 37Fp74 380x 384m20,301 385m20,308,301 386p26 387n2D0 388p25 38Bx 38Cp40",
  "38Dx 38Ep3F 390v 391p20 3A2x 3A3p20 3ACv 3CFp8 3D0n1E 3D1n19 3D2nD 3D3n6 3D4n9 3D5nF 3D6n16 3D7v 3D8p1 3D9v 3DAp1 3DBv 3DCp1 3DDv 3DEp1 3DFv 3E0p1 3E1v 3E2p1 3E3v 3E4p1 3E5v 3E6p1",
  "3E7v 3E8p1 3E9v 3EAp1 3EBv 3ECp1 3EDv 3EEp1 3EFv 3F0n36 3F1n30 3F2n2F 3F3v 3F4n3C 3F5n40 3F6v 3F7p1 3F8v 3F9n36 3FAp1 3FBv 3FDn82 400p50 410p20 430v 460p1 461v 462p1 463v 464p1",
  "465v 466p1 467v 468p1 469v 46Ap1 46Bv 46Cp1 46Dv 46Ep1 46Fv 470p1 471v 472p1 473v 474p1 475v 476p1 477v 478p1 479v 47Ap1 47Bv 47Cp1 47Dv 47Ep1 47Fv 480p1 481v 48Ap1 48Bv 48Cp1 48Dv",
  "48Ep1 48Fv 490p1 491v 492p1 493v 494p1 495v 496p1 497v 498p1 499v 49Ap1 49Bv 49Cp1 49Dv 49Ep1 49Fv 4A0p1 4A1v 4A2p1 4A3v 4A4p1 4A5v 4A6p1 4A7v 4A8p1 4A9v 4AAp1 4ABv 4ACp1 4ADv",
  "4AEp1 4AFv 4B0p1 4B1v 4B2p1 4B3v 4B4p1 4B5v 4B6p1 4B7v 4B8p1 4B9v 4BAp1 4BBv 4BCp1 4BDv 4BEp1 4BFv 4C0pF 4C1p1 4C2v 4C3p1 4C4v 4C5p1 4C6v 4C7p1 4C8v 4C9p1 4CAv 4CBp1 4CCv 4CDp1",
  "4CEv 4D0p1 4D1v 4D2p1 4D3v 4D4p1 4D5v 4D6p1 4D7v 4D8p1 4D9v 4DAp1 4DBv 4DCp1 4DDv 4DEp1 4DFv 4E0p1 4E1v 4E2p1 4E3v 4E4p1 4E5v 4E6p1 4E7v 4E8p1 4E9v 4EAp1 4EBv 4ECp1 4EDv 4EEp1 4EFv",
  "4F0p1 4F1v 4F2p1 4F3v 4F4p1 4F5v 4F6p1 4F7v 4F8p1 4F9v 4FAp1 4FBv 4FCp1 4FDv 4FEp1 4FFv 500p1 501v 502p1 503v 504p1 505v 506p1 507v 508p1 509v 50Ap1 50Bv 50Cp1 50Dv 50Ep1 50Fv",
  "510p1 511v 512p1 513v 514p1 515v 516p1 517v 518p1 519v 51Ap1 51Bv 51Cp1 51Dv 51Ep1 51Fv 520p1 521v 522p1 523v 524p1 525v 526p1 527v 528p1 529v 52Ap1 52Bv 52Cp1 52Dv 52Ep1 52Fv 530x",
  "531p30 557x 558p0 559v 587m565,582 588v 58Bp0 58Cv 590x 591v 5CAx 5D0v 5EBx 5EFv 5F5x 606v 61Cx 61Dv 675m627,674 676m648,674 677m6C7,674 678m64A,674 679v 6DDx 6DEv 70Ex 710v 74Bx",
  "74Dv 7B2x 7C0v 7FBx 7FDv 82Ex 830v 83Fx 840v 85Cx 85Ev 85Fx 860v 86Bx 870v 890x 897v 8E2x 8E3v 958m915,93C 959m916,93C 95Am917,93C 95Bm91C,93C 95Cm921,93C 95Dm922,93C 95Em92B,93C",
  "95Fm92F,93C 960v 984x 985v 98Dx 98Fv 991x 993v 9A9x 9AAv 9B1x 9B2v 9B3x 9B6v 9BAx 9BCv 9C5x 9C7v 9C9x 9CBv 9CFx 9D7v 9D8x 9DCm9A1,9BC 9DDm9A2,9BC 9DEx 9DFm9AF,9BC 9E0v 9E4x 9E6v",
  "9FFx A01v A04x A05v A0Bx A0Fv A11x A13v A29x A2Av A31x A32v A33mA32,A3C A34x A35v A36mA38,A3C A37x A38v A3Ax A3Cv A3Dx A3Ev A43x A47v A49x A4Bv A4Ex A51v A52x A59mA16,A3C",
  "A5AmA17,A3C A5BmA1C,A3C A5Cv A5Dx A5EmA2B,A3C A5Fx A66v A77x A81v A84x A85v A8Ex A8Fv A92x A93v AA9x AAAv AB1x AB2v AB4x AB5v ABAx ABCv AC6x AC7v ACAx ACBv ACEx AD0v AD1x AE0v AE4x",
  "AE6v AF2x AF9v B00x B01v B04x B05v B0Dx B0Fv B11x B13v B29x B2Av B31x B32v B34x B35v B3Ax B3Cv B45x B47v B49x B4Bv B4Ex B53v B54x B55v B58x B5CmB21,B3C B5DmB22,B3C B5Ex B5Fv B64x",
  "B66v B78x B82v B84x B85v B8Bx B8Ev B91x B92v B96x B99v B9Bx B9Cv B9Dx B9Ev BA0x BA3v BA5x BA8v BABx BAEv BBAx BBEv BC3x BC6v BC9x BCAv BCEx BD0v BD1x BD7v BD8x BE6v BFBx C00v C0Dx",
  "C0Ev C11x C12v C29x C2Av C3Ax C3Cv C45x C46v C49x C4Av C4Ex C55v C57x C58v C5Bx C5Cv C5Ex C60v C64x C66v C70x C77v C8Dx C8Ev C91x C92v CA9x CAAv CB4x CB5v CBAx CBCv CC5x CC6v CC9x",
  "CCAv CCEx CD5v CD7x CDCv CDFx CE0v CE4x CE6v CF0x CF1v CF4x D00v D0Dx D0Ev D11x D12v D45x D46v D49x D4Av D50x D54v D64x D66v D80x D81v D84x D85v D97x D9Av DB2x DB3v DBCx DBDv DBEx",
  "DC0v DC7x DCAv DCBx DCFv DD5x DD6v DD7x DD8v DE0x DE6v DF0x DF2v DF5x E01v E33mE4D,E32 E34v E3Bx E3Fv E5Cx E81v E83x E84v E85x E86v E8Bx E8Cv EA4x EA5v EA6x EA7v EB3mECD,EB2 EB4v",
  "EBEx EC0v EC5x EC6v EC7x EC8v ECFx ED0v EDAx EDCmEAB,E99 EDDmEAB,EA1 EDEv EE0x F00v F0Cn1 F0Dv F43mF42,FB7 F44v F48x F49v F4DmF4C,FB7 F4Ev F52mF51,FB7 F53v F57mF56,FB7 F58v",
  "F5CmF5B,FB7 F5Dv F69mF40,FB5 F6Av F6Dx F71v F73mF71,F72 F74v F75mF71,F74 F76mFB2,F80 F77mFB2,F71,F80 F78mFB3,F80 F79mFB3,F71,F80 F7Av F81mF71,F80 F82v F93mF92,FB7 F94v F98x F99v",
  "F9DmF9C,FB7 F9Ev FA2mFA1,FB7 FA3v FA7mFA6,FB7 FA8v FACmFAB,FB7 FADv FB9mF90,FB5 FBAv FBDx FBEv FCDx FCEv FDBx 1000v 10A0p1C60 10C6x 10C7p1C60 10C8x 10CDp1C60 10CEx 10D0v 10FCn20",
  "10FDv 115Fi 1161v 1249x 124Av 124Ex 1250v 1257x 1258v 1259x 125Av 125Ex 1260v 1289x 128Av 128Ex 1290v 12B1x 12B2v 12B6x 12B8v 12BFx 12C0v 12C1x 12C2v 12C6x 12C8v 12D7x 12D8v 1311x",
  "1312v 1316x 1318v 135Bx 135Dv 137Dx 1380v 139Ax 13A0v 13F6x 13F8n8 13FEx 1400v 1680x 1681v 169Dx 16A0v 16F9x 1700v 1716x 171Fv 1737x 1740v 1754x 1760v 176Dx 176Ev 1771x 1772v 1774x",
  "1780v 17B4i 17B6v 17DEx 17E0v 17EAx 17F0v 17FAx 1800v 180Bi 1810v 181Ax 1820v 1879x 1880v 18ABx 18B0v 18F6x 1900v 191Fx 1920v 192Cx 1930v 193Cx 1940v 1941x 1944v 196Ex 1970v 1975x",
  "1980v 19ACx 19B0v 19CAx 19D0v 19DBx 19DEv 1A1Cx 1A1Ev 1A5Fx 1A60v 1A7Dx 1A7Fv 1A8Ax 1A90v 1A9Ax 1AA0v 1AAEx 1AB0v 1AEDx 1AEFv 1AF1x 1B00v 1B4Dx 1B4Ev 1BF4x 1BFCv 1C38x 1C3Bv 1C4Ax",
  "1C4Dv 1C80n184E 1C81n184D 1C82n1844 1C83n1842 1C84m442 1C86n183C 1C87n1824 1C88p89C3 1C89p1 1C8Av 1C8Bx 1C90nBC0 1CBBx 1CBDnBC0 1CC0v 1CC8x 1CD0v 1CFBx 1D00v 1D2Cn1CCB 1D2Dn1C47",
  "1D2En1CCC 1D2Fv 1D30n1CCC 1D32n1B55 1D33n1CCC 1D3Bv 1D3Cn1CCD 1D3Dn1B1A 1D3En1CCE 1D3Fn1CCD 1D40n1CCC 1D42n1CCB 1D43n1CE2 1D44n1AF4 1D46n44 1D47n1CE5 1D48n1CE4 1D4An1AF1 1D4Bn1AF0",
  "1D4Dn1CE6 1D4Ev 1D4Fn1CE4 1D50n1CE3 1D51n1C06 1D52n1CE3 1D53n1AFF 1D54n3E 1D56n1CE6 1D57n1CE3 1D59n3C 1D5An1AEB 1D5Bn1CE5 1D5Cn37 1D5Dn19AB 1D60n199A 1D62n1CF9 1D63n1CF1 1D64n1CEF",
  "1D66n19B4 1D68n19A7 1D69n19A3 1D6Bv 1D78n193B 1D79v 1D9Bn1B49 1D9Cn1D39 1D9Dn1B48 1D9En1CAE 1D9Fn1B43 1DA0n1D3A 1DA1n1B42 1DA2n1B41 1DA3n1B3E 1DA4n1B3C 1DA7n2C 1DA8n1B0B 1DA9n1B3C",
  "1DAAn25 1DABn1B0C 1DACn1B3B 1DADn1B3D 1DAEn1B3C 1DB2n1B3A 1DB3n1B31 1DB5n1C0A 1DB6n1B2D 1DB8n9C 1DB9n1B2E 1DBBn1D41 1DBCn1B2C 1DBFn1A07 1DC0v 1E00p1 1E01v 1E02p1 1E03v 1E04p1 1E05v",
  "1E06p1 1E07v 1E08p1 1E09v 1E0Ap1 1E0Bv 1E0Cp1 1E0Dv 1E0Ep1 1E0Fv 1E10p1 1E11v 1E12p1 1E13v 1E14p1 1E15v 1E16p1 1E17v 1E18p1 1E19v 1E1Ap1 1E1Bv 1E1Cp1 1E1Dv 1E1Ep1 1E1Fv 1E20p1",
  "1E21v 1E22p1 1E23v 1E24p1 1E25v 1E26p1 1E27v 1E28p1 1E29v 1E2Ap1 1E2Bv 1E2Cp1 1E2Dv 1E2Ep1 1E2Fv 1E30p1 1E31v 1E32p1 1E33v 1E34p1 1E35v 1E36p1 1E37v 1E38p1 1E39v 1E3Ap1 1E3Bv",
  "1E3Cp1 1E3Dv 1E3Ep1 1E3Fv 1E40p1 1E41v 1E42p1 1E43v 1E44p1 1E45v 1E46p1 1E47v 1E48p1 1E49v 1E4Ap1 1E4Bv 1E4Cp1 1E4Dv 1E4Ep1 1E4Fv 1E50p1 1E51v 1E52p1 1E53v 1E54p1 1E55v 1E56p1",
  "1E57v 1E58p1 1E59v 1E5Ap1 1E5Bv 1E5Cp1 1E5Dv 1E5Ep1 1E5Fv 1E60p1 1E61v 1E62p1 1E63v 1E64p1 1E65v 1E66p1 1E67v 1E68p1 1E69v 1E6Ap1 1E6Bv 1E6Cp1 1E6Dv 1E6Ep1 1E6Fv 1E70p1 1E71v",
  "1E72p1 1E73v 1E74p1 1E75v 1E76p1 1E77v 1E78p1 1E79v 1E7Ap1 1E7Bv 1E7Cp1 1E7Dv 1E7Ep1 1E7Fv 1E80p1 1E81v 1E82p1 1E83v 1E84p1 1E85v 1E86p1 1E87v 1E88p1 1E89v 1E8Ap1 1E8Bv 1E8Cp1",
  "1E8Dv 1E8Ep1 1E8Fv 1E90p1 1E91v 1E92p1 1E93v 1E94p1 1E95v 1E9Am61,2BE 1E9Bn3A 1E9Cv 1E9En1DBF 1E9Fv 1EA0p1 1EA1v 1EA2p1 1EA3v 1EA4p1 1EA5v 1EA6p1 1EA7v 1EA8p1 1EA9v 1EAAp1 1EABv",
  "1EACp1 1EADv 1EAEp1 1EAFv 1EB0p1 1EB1v 1EB2p1 1EB3v 1EB4p1 1EB5v 1EB6p1 1EB7v 1EB8p1 1EB9v 1EBAp1 1EBBv 1EBCp1 1EBDv 1EBEp1 1EBFv 1EC0p1 1EC1v 1EC2p1 1EC3v 1EC4p1 1EC5v 1EC6p1",
  "1EC7v 1EC8p1 1EC9v 1ECAp1 1ECBv 1ECCp1 1ECDv 1ECEp1 1ECFv 1ED0p1 1ED1v 1ED2p1 1ED3v 1ED4p1 1ED5v 1ED6p1 1ED7v 1ED8p1 1ED9v 1EDAp1 1EDBv 1EDCp1 1EDDv 1EDEp1 1EDFv 1EE0p1 1EE1v",
  "1EE2p1 1EE3v 1EE4p1 1EE5v 1EE6p1 1EE7v 1EE8p1 1EE9v 1EEAp1 1EEBv 1EECp1 1EEDv 1EEEp1 1EEFv 1EF0p1 1EF1v 1EF2p1 1EF3v 1EF4p1 1EF5v 1EF6p1 1EF7v 1EF8p1 1EF9v 1EFAp1 1EFBv 1EFCp1",
  "1EFDv 1EFEp1 1EFFv 1F08n8 1F10v 1F16x 1F18n8 1F1Ex 1F20v 1F28n8 1F30v 1F38n8 1F40v 1F46x 1F48n8 1F4Ex 1F50v 1F58x 1F59n8 1F5Ax 1F5Bn8 1F5Cx 1F5Dn8 1F5Ex 1F5Fn8 1F60v 1F68n8 1F70v",
  "1F71n1BC5 1F72v 1F73n1BC6 1F74v 1F75n1BC7 1F76v 1F77n1BC8 1F78v 1F79n1BAD 1F7Av 1F7Bn1BAE 1F7Cv 1F7Dn1BAF 1F7Ex 1F80m1F00,3B9 1F81m1F01,3B9 1F82m1F02,3B9 1F83m1F03,3B9",
  "1F84m1F04,3B9 1F85m1F05,3B9 1F86m1F06,3B9 1F87m1F07,3B9 1F88m1F00,3B9 1F89m1F01,3B9 1F8Am1F02,3B9 1F8Bm1F03,3B9 1F8Cm1F04,3B9 1F8Dm1F05,3B9 1F8Em1F06,3B9 1F8Fm1F07,3B9",
  "1F90m1F20,3B9 1F91m1F21,3B9 1F92m1F22,3B9 1F93m1F23,3B9 1F94m1F24,3B9 1F95m1F25,3B9 1F96m1F26,3B9 1F97m1F27,3B9 1F98m1F20,3B9 1F99m1F21,3B9 1F9Am1F22,3B9 1F9Bm1F23,3B9",
  "1F9Cm1F24,3B9 1F9Dm1F25,3B9 1F9Em1F26,3B9 1F9Fm1F27,3B9 1FA0m1F60,3B9 1FA1m1F61,3B9 1FA2m1F62,3B9 1FA3m1F63,3B9 1FA4m1F64,3B9 1FA5m1F65,3B9 1FA6m1F66,3B9 1FA7m1F67,3B9",
  "1FA8m1F60,3B9 1FA9m1F61,3B9 1FAAm1F62,3B9 1FABm1F63,3B9 1FACm1F64,3B9 1FADm1F65,3B9 1FAEm1F66,3B9 1FAFm1F67,3B9 1FB0v 1FB2m1F70,3B9 1FB3m3B1,3B9 1FB4m3AC,3B9 1FB5x 1FB6v",
  "1FB7m1FB6,3B9 1FB8n8 1FBAn4A 1FBBn1C0F 1FBCm3B1,3B9 1FBDm20,313 1FBEn1C05 1FBFm20,313 1FC0m20,342 1FC1m20,308,342 1FC2m1F74,3B9 1FC3m3B7,3B9 1FC4m3AE,3B9 1FC5x 1FC6v 1FC7m1FC6,3B9",
  "1FC8n56 1FC9n1C1C 1FCAn56 1FCBn1C1D 1FCCm3B7,3B9 1FCDm20,313,300 1FCEm20,313,301 1FCFm20,313,342 1FD0v 1FD3n1C43 1FD4x 1FD6v 1FD8n8 1FDAn64 1FDBn1C2C 1FDCx 1FDDm20,314,300",
  "1FDEm20,314,301 1FDFm20,314,342 1FE0v 1FE3n1C33 1FE4v 1FE8n8 1FEAn70 1FEBn1C1E 1FECn7 1FEDm20,308,300 1FEEm20,308,301 1FEFn1F8F 1FF0x 1FF2m1F7C,3B9 1FF3m3C9,3B9 1FF4m3CE,3B9 1FF5x",
  "1FF6v 1FF7m1FF6,3B9 1FF8n80 1FF9n1C2D 1FFAn7E 1FFBn1C2D 1FFCm3C9,3B9 1FFDm20,301 1FFEm20,314 1FFFx 2000m20 200Bi 200Cv 200Ex 2010v 2011n1 2012v 2017m20,333 2018v 2024x 2027v 2028x",
  "202Fn200F 2030v 2033m2032,2032 2034m2032,2032,2032 2035v 2036m2035,2035 2037m2035,2035,2035 2038v 203Cm21,21 203Dv 203Em20,305 203Fv 2047m3F,3F 2048m3F,21 2049m21,3F 204Av",
  "2057m2032,2032,2032,2032 2058v 205Fn203F 2060i 2065x 206Ai 2070n2040 2071n2008 2072x 2074n2040 207An204F 207Bp197 207Cn203F 207Dn2055 207Fn2011 2080n2050 208An205F 208Bp187",
  "208Cn204F 208Dn2065 208Fv 2090n202F 2091n202C 2092n2023 2093n201B 2094n1E3B 2095n202D 2096n202B 209An202A 209Bn2028 209Dp0 209Fx 20A0v 20A8m72,73 20A9v 20C3x 20C4v 20C5x 20D0v",
  "20F1x 2100m61,2F,63 2101m61,2F,73 2102n209F 2103mB0,63 2104v 2105m63,2F,6F 2106m63,2F,75 2107n1EAC 2108v 2109mB0,66 210An20A3 210Bm68 210Fn1FE8 2110m69 2112m6C 2114v 2115n20A7",
  "2116m6E,6F 2117v 2119n20A9 211Bm72 211Ev 2120m73,6D 2121m74,65,6C 2122m74,6D 2123v 2124n20AA 2125v 2126n1D5D 2127v 2128n20AE 2129v 212An20BF 212Bn2046 212Cn20CA 212Ev 212Fm65",
  "2131n20CB 2132p1C 2133n20C6 2134n20C5 2135n1B65 2139n20D0 213Av 213Bm66,61,78 213Cn1D7C 213Dm3B3 213Fn1D7F 2140pD1 2141v 2145m64 2147n20E2 2148n20DF 214Av 2150m31,2044,37",
  "2151m31,2044,39 2152m31,2044,31,30 2153m31,2044,33 2154m32,2044,33 2155m31,2044,35 2156m32,2044,35 2157m33,2044,35 2158m34,2044,35 2159m31,2044,36 215Am35,2044,36 215Bm31,2044,38",
  "215Cm33,2044,38 215Dm35,2044,38 215Em37,2044,38 215Fm31,2044 2160n20F7 2161m69,69 2162m69,69,69 2163m69,76 2164n20EE 2165m76,69 2166m76,69,69 2167m76,69,69,69 2168m69,78 2169n20F1",
  "216Am78,69 216Bm78,69,69 216Cn2100 216Dn210A 216Fn2102 2170n2107 2171m69,69 2172m69,69,69 2173m69,76 2174n20FE 2175m76,69 2176m76,69,69 2177m76,69,69,69 2178m69,78 2179n2101",
  "217Am78,69 217Bm78,69,69 217Cn2110 217Dn211A 217Fn2112 2180v 2183p1 2184v 2189m30,2044,33 218Av 218Cx 2190v 222Cm222B,222B 222Dm222B,222B,222B 222Ev 222Fm222E,222E",
  "2230m222E,222E,222E 2231v 2329pCDF 232Bv 242Ax 2440v 244Bx 2460n242F 2469m31,30 246Am31,31 246Bm31,32 246Cm31,33 246Dm31,34 246Em31,35 246Fm31,36 2470m31,37 2471m31,38 2472m31,39",
  "2473m32,30 2474m28,31,29 2475m28,32,29 2476m28,33,29 2477m28,34,29 2478m28,35,29 2479m28,36,29 247Am28,37,29 247Bm28,38,29 247Cm28,39,29 247Dm28,31,30,29 247Em28,31,31,29",
  "247Fm28,31,32,29 2480m28,31,33,29 2481m28,31,34,29 2482m28,31,35,29 2483m28,31,36,29 2484m28,31,37,29 2485m28,31,38,29 2486m28,31,39,29 2487m28,32,30,29 2488x 249Cm28,61,29",
  "249Dm28,62,29 249Em28,63,29 249Fm28,64,29 24A0m28,65,29 24A1m28,66,29 24A2m28,67,29 24A3m28,68,29 24A4m28,69,29 24A5m28,6A,29 24A6m28,6B,29 24A7m28,6C,29 24A8m28,6D,29",
  "24A9m28,6E,29 24AAm28,6F,29 24ABm28,70,29 24ACm28,71,29 24ADm28,72,29 24AEm28,73,29 24AFm28,74,29 24B0m28,75,29 24B1m28,76,29 24B2m28,77,29 24B3m28,78,29 24B4m28,79,29",
  "24B5m28,7A,29 24B6n2455 24D0n246F 24EAn24BA 24EBv 2A0Cm222B,222B,222B,222B 2A0Dv 2A74m3A,3A,3D 2A75m3D,3D 2A76m3D,3D,3D 2A77v 2ADCm2ADD,338 2ADDv 2B74x 2B76v 2C00p30 2C30v 2C60p1",
  "2C61v 2C62n29F7 2C63nEE6 2C64n29E7 2C65v 2C67p1 2C68v 2C69p1 2C6Av 2C6Bp1 2C6Cv 2C6Dn2A1C 2C6En29FD 2C6Fn2A1F 2C70n2A1E 2C71v 2C72p1 2C73v 2C75p1 2C76v 2C7Cn2C12 2C7Dn2C07",
  "2C7En2A3F 2C80p1 2C81v 2C82p1 2C83v 2C84p1 2C85v 2C86p1 2C87v 2C88p1 2C89v 2C8Ap1 2C8Bv 2C8Cp1 2C8Dv 2C8Ep1 2C8Fv 2C90p1 2C91v 2C92p1 2C93v 2C94p1 2C95v 2C96p1 2C97v 2C98p1 2C99v",
  "2C9Ap1 2C9Bv 2C9Cp1 2C9Dv 2C9Ep1 2C9Fv 2CA0p1 2CA1v 2CA2p1 2CA3v 2CA4p1 2CA5v 2CA6p1 2CA7v 2CA8p1 2CA9v 2CAAp1 2CABv 2CACp1 2CADv 2CAEp1 2CAFv 2CB0p1 2CB1v 2CB2p1 2CB3v 2CB4p1",
  "2CB5v 2CB6p1 2CB7v 2CB8p1 2CB9v 2CBAp1 2CBBv 2CBCp1 2CBDv 2CBEp1 2CBFv 2CC0p1 2CC1v 2CC2p1 2CC3v 2CC4p1 2CC5v 2CC6p1 2CC7v 2CC8p1 2CC9v 2CCAp1 2CCBv 2CCCp1 2CCDv 2CCEp1 2CCFv",
  "2CD0p1 2CD1v 2CD2p1 2CD3v 2CD4p1 2CD5v 2CD6p1 2CD7v 2CD8p1 2CD9v 2CDAp1 2CDBv 2CDCp1 2CDDv 2CDEp1 2CDFv 2CE0p1 2CE1v 2CE2p1 2CE3v 2CEBp1 2CECv 2CEDp1 2CEEv 2CF2p1 2CF3v 2CF4x 2CF9v",
  "2D26x 2D27v 2D28x 2D2Dv 2D2Ex 2D30v 2D68x 2D6FnE 2D70v 2D71x 2D7Fv 2D97x 2DA0v 2DA7x 2DA8v 2DAFx 2DB0v 2DB7x 2DB8v 2DBFx 2DC0v 2DC7x 2DC8v 2DCFx 2DD0v 2DD7x 2DD8v 2DDFx 2DE0v 2E5Ex",
  "2E60v 2E61x 2E80v 2E9Ax 2E9Bv 2E9Fp3D2E 2EA0v 2EF3p70AC 2EF4x 2F00p1F00 2F01p1F27 2F02p1F34 2F03p1F3C 2F04p1F55 2F05p1F80 2F06p1F86 2F07p1F99 2F08p1FB2 2F09p2236 2F0Ap225B",
  "2F0Bp2260 2F0Cp2276 2F0Dp2289 2F0Ep229D 2F0Fp22D1 2F10p22E5 2F11p22EF 2F12p2389 2F13p23E6 2F14p2401 2F15p2405 2F16p2422 2F17p242A 2F18p2444 2F19p2450 2F1Ap2468 2F1Bp249B 2F1Cp24AC",
  "2F1Dp24C6 2F1Ep27B9 2F1Fp2800 2F20p29CB 2F21p29E1 2F22p29E8 2F23p29F2 2F24p2A03 2F25p2A4E 2F26p2C2A 2F27p2C59 2F28p2CD0 2F29p2CE6 2F2Ap2CF8 2F2Bp2D0D 2F2Cp2D42 2F2Dp2D44 2F2Ep2EAD",
  "2F2Fp2EB6 2F30p2EC1 2F31p2ECD 2F32p2F40 2F33p2F47 2F34p2F4B 2F35p2FBF 2F36p2FC8 2F37p2FD4 2F38p2FDB 2F39p3017 2F3Ap3027 2F3Bp3038 2F3Cp3087 2F3Dp32CB 2F3Ep32F8 2F3Fp330C 2F40p35EF",
  "2F41p35F3 2F42p3645 2F43p3654 2F44p3660 2F45p3674 2F46p369A 2F47p369E 2F48p37A8 2F49p37BF 2F4Ap37DE 2F4Bp3BD5 2F4Cp3C16 2F4Dp3C2C 2F4Ep3C65 2F4Fp3C7C 2F50p3C84 2F51p3C8A 2F52p3CBD",
  "2F53p3CC1 2F54p3CE0 2F55p4116 2F56p42D4 2F57p42DF 2F58p42E3 2F59p42E6 2F5Ap42ED 2F5Bp42FE 2F5Cp42FF 2F5Dp434F 2F5Ep4426 2F5Fp442A 2F60p457C 2F61p4585 2F62p45B6 2F63p45BC 2F64p45C4",
  "2F65p45CB 2F66p4625 2F67p462B 2F68p470E 2F69p4714 2F6Ap4744 2F6Bp4754 2F6Cp4782 2F6Dp486E 2F6Ep4874 2F6Fp4884 2F70p49CA 2F71p4A47 2F72p4A4C 2F73p4B01 2F74p4B57 2F75p4B84 2F76p4CFD",
  "2F77p4D81 2F78p4FBE 2F79p4FD8 2F7Ap5010 2F7Bp5042 2F7Cp5085 2F7Dp508F 2F7Ep5094 2F7Fp50B4 2F80p50FF 2F81p5108 2F82p5261 2F83p5267 2F84p526F 2F85p5277 2F86p5286 2F87p5294 2F88p5297",
  "2F89p52E5 2F8Ap52E8 2F8Bp52ED 2F8Cp56C1 2F8Dp56DE 2F8Ep58B2 2F8Fp58BD 2F90p58D3 2F91p59ED 2F92p59F9 2F93p5A3F 2F94p5A6C 2F95p5CA2 2F96p5CB0 2F97p5CBE 2F98p5CE0 2F99p5D04 2F9Ap5DCA",
  "2F9Bp5DD5 2F9Cp5E17 2F9Dp5F0E 2F9Ep5F2C 2F9Fp5FFC 2FA0p6010 2FA1p6014 2FA2p60EF 2FA3p61A6 2FA4p6222 2FA5p6227 2FA6p622B 2FA7p65D0 2FA8p65D8 2FA9p6673 2FAAp670C 2FABp670E 2FACp673C",
  "2FADp67A4 2FAEp67B0 2FAFp67B3 2FB0p67B9 2FB1p681A 2FB2p683B 2FB3p6840 2FB4p684D 2FB5p68F3 2FB6p6925 2FB7p6928 2FB8p69DE 2FB9p69E0 2FBAp69F2 2FBBp6AED 2FBCp6B1C 2FBDp6B22 2FBEp6B67",
  "2FBFp6B70 2FC0p6B72 2FC1p6B7B 2FC2p6B98 2FC3p6D22 2FC4p6EB1 2FC5p6EBA 2FC6p6EDF 2FC7p6EF4 2FC8p6EFB 2FC9p6F04 2FCAp6F07 2FCBp6F2E 2FCCp6F31 2FCDp6F41 2FCEp6F45 2FCFp6F51 2FD0p6F6B",
  "2FD1p6F79 2FD2p6F80 2FD3p6FBA 2FD4p6FC8 2FD5p6FCB 2FD6x 3000n2FE0 3001v 3002n2FD4 3003v 3036n24 3037v 3038p2309 3039p230B 303Bv 3040x 3041v 3097x 3099v 309Bm20,3099 309Cm20,309A",
  "309Dv 309Fm3088,308A 30A0v 30FFm30B3,30C8 3100x 3105v 3130x 3131n2031 3133n1F89 3134n2032 3135n1F89 3137n2034 313An1F8A 3140n2026 3141n203B 3144n2023 3145n203C 314Fn1FEE 3164i",
  "3165n2051 3167n1FA0 3169n1F9D 316An1F9C 316Bn1F98 316Cn1F95 316Dn1F94 316En2052 316Fn1F92 3170n1F91 3171n2054 3173n2053 3174n2052 3176n204F 3177n204E 3178n204D 317Dn204B 317En2048",
  "317Fn203F 3180n2039 3181n2035 3182n1F91 3184n202D 3187n2003 3189n2001 318An1FF9 318Cn1FF8 318Dn1FEF 318En1FED 318Fx 3190v 3192p1C6E 3193p1CF9 3194p1C75 3195p2546 3196p1C74",
  "3197p1C96 3198p1C73 3199p4399 319Ap1CBF 319Bp1C7E 319Cp1C65 319Dp278C 319Ep2592 319Fp1D1B 31A0v 31E6x 31F0v 3200m28,1100,29 3201m28,1102,29 3202m28,1103,29 3203m28,1105,29",
  "3204m28,1106,29 3205m28,1107,29 3206m28,1109,29 3207m28,110B,29 3208m28,110C,29 3209m28,110E,29 320Am28,110F,29 320Bm28,1110,29 320Cm28,1111,29 320Dm28,1112,29 320Em28,AC00,29",
  "320Fm28,B098,29 3210m28,B2E4,29 3211m28,B77C,29 3212m28,B9C8,29 3213m28,BC14,29 3214m28,C0AC,29 3215m28,C544,29 3216m28,C790,29 3217m28,CC28,29 3218m28,CE74,29 3219m28,D0C0,29",
  "321Am28,D30C,29 321Bm28,D558,29 321Cm28,C8FC,29 321Dm28,C624,C804,29 321Em28,C624,D6C4,29 321Fx 3220m28,4E00,29 3221m28,4E8C,29 3222m28,4E09,29 3223m28,56DB,29 3224m28,4E94,29",
  "3225m28,516D,29 3226m28,4E03,29 3227m28,516B,29 3228m28,4E5D,29 3229m28,5341,29 322Am28,6708,29 322Bm28,706B,29 322Cm28,6C34,29 322Dm28,6728,29 322Em28,91D1,29 322Fm28,571F,29",
  "3230m28,65E5,29 3231m28,682A,29 3232m28,6709,29 3233m28,793E,29 3234m28,540D,29 3235m28,7279,29 3236m28,8CA1,29 3237m28,795D,29 3238m28,52B4,29 3239m28,4EE3,29 323Am28,547C,29",
  "323Bm28,5B66,29 323Cm28,76E3,29 323Dm28,4F01,29 323Em28,8CC7,29 323Fm28,5354,29 3240m28,796D,29 3241m28,4F11,29 3242m28,81EA,29 3243m28,81F3,29 3244p230B 3245p2C37 3246p3341",
  "3247p4948 3248v 3250m70,74,65 3251m32,31 3252m32,32 3253m32,33 3254m32,34 3255m32,35 3256m32,36 3257m32,37 3258m32,38 3259m32,39 325Am33,30 325Bm33,31 325Cm33,32 325Dm33,33",
  "325Em33,34 325Fm33,35 3260n2160 3261n215F 3263n215E 3266n215D 3267n215C 3269n215B 326Ep7992 326Fp7E29 3270p8074 3271p850B 3272p8756 3273p89A1 3274p8E38 3275p92CF 3276p951A",
  "3277p99B1 3278p9BFC 3279p9E47 327ApA092 327BpA2DD 327CmCC38,ACE0 327DmC8FC,C758 327Ep9432 327Fv 3280p1B80 3281p1C0B 3282p1B87 3283p2458 3284p1C10 3285p1EE8 3286p1B7D 3287p1EE4",
  "3288p1BD5 3289p20B8 328Ap347E 328Bp3DE0 328Cp39A8 328Dp349B 328Ep5F43 328Fp2490 3290p3355 3291p3599 3292p3477 3293p46AB 3294p2179 3295p3FE4 3296p5A0B 3297p46C6 3298p201C 3299p473F",
  "329Ap429D 329Bp26D8 329Cp5DCD 329Dp1E8D 329Ep20D2 329Fp3A49 32A0p6565 32A1p1C70 32A2p1EF7 32A3p38C0 32A4p1B66 32A5p1B88 32A6p1B65 32A7p2B3F 32A8p214B 32A9p2092 32AAp28ED 32ABp28BB",
  "32ACp4437 32ADp1C54 32AEp5A19 32AFp20A5 32B0p266C 32B1m33,36 32B2m33,37 32B3m33,38 32B4m33,39 32B5m34,30 32B6m34,31 32B7m34,32 32B8m34,33 32B9m34,34 32BAm34,35 32BBm34,36",
  "32BCm34,37 32BDm34,38 32BEm34,39 32BFm35,30 32C0m31,6708 32C1m32,6708 32C2m33,6708 32C3m34,6708 32C4m35,6708 32C5m36,6708 32C6m37,6708 32C7m38,6708 32C8m39,6708 32C9m31,30,6708",
  "32CAm31,31,6708 32CBm31,32,6708 32CCm68,67 32CDm65,72,67 32CEm65,76 32CFm6C,74,64 32D0n22E 32D1n22D 32D2n22C 32D3n22B 32D4n22A 32D6n229 32D7n228 32D8n227 32D9n226 32DAn225 32DBn224",
  "32DCn223 32DDn222 32DEn221 32DFn220 32E0n21F 32E1n21D 32E2n21C 32E3n21B 32E4n21A 32EAn218 32EBn216 32ECn214 32EDn212 32EEn210 32F3n20F 32F4n20E 32F5n20D 32FBn20C 32FFm4EE4,548C",
  "3300m30A2,30D1,30FC,30C8 3301m30A2,30EB,30D5,30A1 3302m30A2,30F3,30DA,30A2 3303m30A2,30FC,30EB 3304m30A4,30CB,30F3,30B0 3305m30A4,30F3,30C1 3306m30A6,30A9,30F3",
  "3307m30A8,30B9,30AF,30FC,30C9 3308m30A8,30FC,30AB,30FC 3309m30AA,30F3,30B9 330Am30AA,30FC,30E0 330Bm30AB,30A4,30EA 330Cm30AB,30E9,30C3,30C8 330Dm30AB,30ED,30EA,30FC",
  "330Em30AC,30ED,30F3 330Fm30AC,30F3,30DE 3310m30AE,30AC 3311m30AE,30CB,30FC 3312m30AD,30E5,30EA,30FC 3313m30AE,30EB,30C0,30FC 3314m30AD,30ED 3315m30AD,30ED,30B0,30E9,30E0",
  "3316m30AD,30ED,30E1,30FC,30C8,30EB 3317m30AD,30ED,30EF,30C3,30C8 3318m30B0,30E9,30E0 3319m30B0,30E9,30E0,30C8,30F3 331Am30AF,30EB,30BC,30A4,30ED 331Bm30AF,30ED,30FC,30CD",
  "331Cm30B1,30FC,30B9 331Dm30B3,30EB,30CA 331Em30B3,30FC,30DD 331Fm30B5,30A4,30AF,30EB 3320m30B5,30F3,30C1,30FC,30E0 3321m30B7,30EA,30F3,30B0 3322m30BB,30F3,30C1 3323m30BB,30F3,30C8",
  "3324m30C0,30FC,30B9 3325m30C7,30B7 3326m30C9,30EB 3327m30C8,30F3 3328m30CA,30CE 3329m30CE,30C3,30C8 332Am30CF,30A4,30C4 332Bm30D1,30FC,30BB,30F3,30C8 332Cm30D1,30FC,30C4",
  "332Dm30D0,30FC,30EC,30EB 332Em30D4,30A2,30B9,30C8,30EB 332Fm30D4,30AF,30EB 3330m30D4,30B3 3331m30D3,30EB 3332m30D5,30A1,30E9,30C3,30C9 3333m30D5,30A3,30FC,30C8",
  "3334m30D6,30C3,30B7,30A7,30EB 3335m30D5,30E9,30F3 3336m30D8,30AF,30BF,30FC,30EB 3337m30DA,30BD 3338m30DA,30CB,30D2 3339m30D8,30EB,30C4 333Am30DA,30F3,30B9 333Bm30DA,30FC,30B8",
  "333Cm30D9,30FC,30BF 333Dm30DD,30A4,30F3,30C8 333Em30DC,30EB,30C8 333Fm30DB,30F3 3340m30DD,30F3,30C9 3341m30DB,30FC,30EB 3342m30DB,30FC,30F3 3343m30DE,30A4,30AF,30ED",
  "3344m30DE,30A4,30EB 3345m30DE,30C3,30CF 3346m30DE,30EB,30AF 3347m30DE,30F3,30B7,30E7,30F3 3348m30DF,30AF,30ED,30F3 3349m30DF,30EA 334Am30DF,30EA,30D0,30FC,30EB 334Bm30E1,30AC",
  "334Cm30E1,30AC,30C8,30F3 334Dm30E1,30FC,30C8,30EB 334Em30E4,30FC,30C9 334Fm30E4,30FC,30EB 3350m30E6,30A2,30F3 3351m30EA,30C3,30C8,30EB 3352m30EA,30E9 3353m30EB,30D4,30FC",
  "3354m30EB,30FC,30D6,30EB 3355m30EC,30E0 3356m30EC,30F3,30C8,30B2,30F3 3357m30EF,30C3,30C8 3358m30,70B9 3359m31,70B9 335Am32,70B9 335Bm33,70B9 335Cm34,70B9 335Dm35,70B9 335Em36,70B9",
  "335Fm37,70B9 3360m38,70B9 3361m39,70B9 3362m31,30,70B9 3363m31,31,70B9 3364m31,32,70B9 3365m31,33,70B9 3366m31,34,70B9 3367m31,35,70B9 3368m31,36,70B9 3369m31,37,70B9",
  "336Am31,38,70B9 336Bm31,39,70B9 336Cm32,30,70B9 336Dm32,31,70B9 336Em32,32,70B9 336Fm32,33,70B9 3370m32,34,70B9 3371m68,70,61 3372m64,61 3373m61,75 3374m62,61,72 3375m6F,76",
  "3376m70,63 3377m64,6D 3378m64,6D,32 3379m64,6D,33 337Am69,75 337Bm5E73,6210 337Cm662D,548C 337Dm5927,6B63 337Em660E,6CBB 337Fm682A,5F0F,4F1A,793E 3380m70,61 3381m6E,61 3382m3BC,61",
  "3383m6D,61 3384m6B,61 3385m6B,62 3386m6D,62 3387m67,62 3388m63,61,6C 3389m6B,63,61,6C 338Am70,66 338Bm6E,66 338Cm3BC,66 338Dm3BC,67 338Em6D,67 338Fm6B,67 3390m68,7A 3391m6B,68,7A",
  "3392m6D,68,7A 3393m67,68,7A 3394m74,68,7A 3395m3BC,6C 3396m6D,6C 3397m64,6C 3398m6B,6C 3399m66,6D 339Am6E,6D 339Bm3BC,6D 339Cm6D,6D 339Dm63,6D 339Em6B,6D 339Fm6D,6D,32",
  "33A0m63,6D,32 33A1m6D,32 33A2m6B,6D,32 33A3m6D,6D,33 33A4m63,6D,33 33A5m6D,33 33A6m6B,6D,33 33A7m6D,2215,73 33A8m6D,2215,73,32 33A9m70,61 33AAm6B,70,61 33ABm6D,70,61 33ACm67,70,61",
  "33ADm72,61,64 33AEm72,61,64,2215,73 33AFm72,61,64,2215,73,32 33B0m70,73 33B1m6E,73 33B2m3BC,73 33B3m6D,73 33B4m70,76 33B5m6E,76 33B6m3BC,76 33B7m6D,76 33B8m6B,76 33B9m6D,76",
  "33BAm70,77 33BBm6E,77 33BCm3BC,77 33BDm6D,77 33BEm6B,77 33BFm6D,77 33C0m6B,3C9 33C1m6D,3C9 33C2x 33C3m62,71 33C4m63,63 33C5m63,64 33C6m63,2215,6B,67 33C7x 33C8m64,62 33C9m67,79",
  "33CAm68,61 33CBm68,70 33CCm69,6E 33CDm6B,6B 33CEm6B,6D 33CFm6B,74 33D0m6C,6D 33D1m6C,6E 33D2m6C,6F,67 33D3m6C,78 33D4m6D,62 33D5m6D,69,6C 33D6m6D,6F,6C 33D7m70,68 33D8x",
  "33D9m70,70,6D 33DAm70,72 33DBm73,72 33DCm73,76 33DDm77,62 33DEm76,2215,6D 33DFm61,2215,6D 33E0m31,65E5 33E1m32,65E5 33E2m33,65E5 33E3m34,65E5 33E4m35,65E5 33E5m36,65E5 33E6m37,65E5",
  "33E7m38,65E5 33E8m39,65E5 33E9m31,30,65E5 33EAm31,31,65E5 33EBm31,32,65E5 33ECm31,33,65E5 33EDm31,34,65E5 33EEm31,35,65E5 33EFm31,36,65E5 33F0m31,37,65E5 33F1m31,38,65E5",
  "33F2m31,39,65E5 33F3m32,30,65E5 33F4m32,31,65E5 33F5m32,32,65E5 33F6m32,33,65E5 33F7m32,34,65E5 33F8m32,35,65E5 33F9m32,36,65E5 33FAm32,37,65E5 33FBm32,38,65E5 33FCm32,39,65E5",
  "33FDm33,30,65E5 33FEm33,31,65E5 33FFm67,61,6C 3400v A48Dx A490v A4C7x A4D0v A62Cx A640p1 A641v A642p1 A643v A644p1 A645v A646p1 A647v A648p1 A649v A64Ap1 A64Bv A64Cp1 A64Dv A64Ep1",
  "A64Fv A650p1 A651v A652p1 A653v A654p1 A655v A656p1 A657v A658p1 A659v A65Ap1 A65Bv A65Cp1 A65Dv A65Ep1 A65Fv A660p1 A661v A662p1 A663v A664p1 A665v A666p1 A667v A668p1 A669v",
  "A66Ap1 A66Bv A66Cp1 A66Dv A680p1 A681v A682p1 A683v A684p1 A685v A686p1 A687v A688p1 A689v A68Ap1 A68Bv A68Cp1 A68Dv A68Ep1 A68Fv A690p1 A691v A692p1 A693v A694p1 A695v A696p1",
  "A697v A698p1 A699v A69Ap1 A69Bv A69CnA252 A69DnA251 A69Ev A6F8x A700v A722p1 A723v A724p1 A725v A726p1 A727v A728p1 A729v A72Ap1 A72Bv A72Cp1 A72Dv A72Ep1 A72Fv A732p1 A733v A734p1",
  "A735v A736p1 A737v A738p1 A739v A73Ap1 A73Bv A73Cp1 A73Dv A73Ep1 A73Fv A740p1 A741v A742p1 A743v A744p1 A745v A746p1 A747v A748p1 A749v A74Ap1 A74Bv A74Cp1 A74Dv A74Ep1 A74Fv",
  "A750p1 A751v A752p1 A753v A754p1 A755v A756p1 A757v A758p1 A759v A75Ap1 A75Bv A75Cp1 A75Dv A75Ep1 A75Fv A760p1 A761v A762p1 A763v A764p1 A765v A766p1 A767v A768p1 A769v A76Ap1",
  "A76Bv A76Cp1 A76Dv A76Ep1 A76Fv A770n1 A771v A779p1 A77Av A77Bp1 A77Cv A77Dn8A04 A77Ep1 A77Fv A780p1 A781v A782p1 A783v A784p1 A785v A786p1 A787v A78Bp1 A78Cv A78DnA528 A78Ev",
  "A790p1 A791v A792p1 A793v A796p1 A797v A798p1 A799v A79Ap1 A79Bv A79Cp1 A79Dv A79Ep1 A79Fv A7A0p1 A7A1v A7A2p1 A7A3v A7A4p1 A7A5v A7A6p1 A7A7v A7A8p1 A7A9v A7AAnA544 A7ABnA54F",
  "A7ACnA54B A7ADnA541 A7AEnA544 A7AFv A7B0nA512 A7B1nA52A A7B2nA515 A7B3p3A0 A7B4p1 A7B5v A7B6p1 A7B7v A7B8p1 A7B9v A7BAp1 A7BBv A7BCp1 A7BDv A7BEp1 A7BFv A7C0p1 A7C1v A7C2p1 A7C3v",
  "A7C4n30 A7C5nA543 A7C6n8A38 A7C7p1 A7C8v A7C9p1 A7CAv A7CBnA567 A7CCp1 A7CDv A7CEp1 A7CFv A7D0p1 A7D1v A7D2p1 A7D3v A7D4p1 A7D5v A7D6p1 A7D7v A7D8p1 A7D9v A7DAp1 A7DBv A7DCnA641",
  "A7DDp0 A7DEx A7E2p0 A7E3x A7F1nA77E A7F2nA78F A7F3nA78D A7F4nA783 A7F5p1 A7F6v A7F8nA6D1 A7F9nA6A6 A7FAv A82Dx A830v A83Ax A840v A878x A880v A8C6x A8CEv A8DAx A8E0v A954x A95Fv",
  "A97Dx A980v A9CEx A9CFv A9DAx A9DEv A9FFx AA00v AA37x AA40v AA4Ex AA50v AA5Ax AA5Cv AAC3x AADBv AAF7x AB01v AB07x AB09v AB0Fx AB11v AB17x AB20v AB27x AB28v AB2Fx AB30v AB5Cn435",
  "AB5Dn26 AB5EnA8F3 AB5FnD AB60v AB69nA8DC AB6Av AB6Cp0 AB6Ex AB70n97D0 ABC0v ABEEx ABF0v ABFAx AC00v D7A4x D7B0v D7C7x D7CBv D7FCx F900n6CB8 F901n920D F902n6A38 F903n6C3B F904n8A33",
  "F905nAAD3 F906nA521 F907m9F9C F909n9FB8 F90An6739 F90BnA384 F90Cn9FC4 F90Dn9717 F90En82A5 F90Fn798A F910n72D1 F911n7157 F912n701A F913n6884 F914n8F12 F915n8BFA F916n883D F917n8539",
  "F918n74DB F919n67AF F91An5F29 F91BnAA99 F91CnA5A7 F91Dn8E19 F91En8703 F91Fn72F2 F920n5B02 F921n9BD1 F922n8937 F923n7356 F924n6FC0 F925n965C F926n774E F927n7108 F928n9A5E F929n9212",
  "F92An8BC0 F92Bn862F F92Cn685E F92DnA9A7 F92EnA777 F92FnA651 F930n946C F931n8E5E F932n8722 F933n824C F934n7933 F935n732F F936n72DA F937n6B48 F938n6206 F939n5DCA F93An5B40 F93Bn80AF",
  "F93Cn7FBD F93Dn7B9D F93En7575 F93Fn663B F940n5AC1 F941n6E6B F942nA063 F943n9A3F F944n7CE4 F945n78C7 F946n86E4 F947n807D F948n6C86 F949n6252 F94AnA072 F94Bn9CE9 F94Cn8F39 F94Dn8B73",
  "F94En8A3F F94Fn7C20 F950n7B19 F951n6306 F952nA680 F953n78C8 F954nA778 F955nA789 F956n7F3A F957n7B99 F958n7567 F959n62E4 F95An6DDA F95Bn968C F95Cn8F5A F95Dn6E5F F95EnAB25 F95Fn9D78",
  "F960n994E F961n85DA F962n83F2 F963nA64C F964n8069 F965nA9A6 F966n99BD F967nAB5A F968n8C9C F969n93F1 F96An7C48 F96BnA5A8 F96CnA10E F96Dn826C F96En7525 F96Fn6EC5 F970n8DB6 F971n69C1",
  "F972n8CEA F973n9675 F974n768F F975n95D5 F976n8411 F977nAAC9 F978nA80F F979nA7B0 F97An90F9 F97Bn7C94 F97Cn770D F97Dn6EAB F97En67AF F97FnA68A F980nA53E F981nA00E F982n9A96 F983n93BE",
  "F984n8986 F985n805B F986n63D9 F987n5F1D F988n5AF1 F989n5ABB F98AnA6EF F98Bn92C5 F98Cn8E15 F98Dn6A2B F98En9B1A F98Fn97FF F990n9790 F991n94F7 F992n8A6F F993n884A F994n850B F995n7FCB",
  "F996n7BA2 F997n7928 F998n6A72 F999n74AB F99An6977 F99Bn6651 F99CnA785 F99DnA6FA F99EnA4E1 F99Fn88D7 F9A0n70DE F9A1n6EF7 F9A2n9AD9 F9A3n99AE F9A4n9629 F9A5n8DF7 F9A6n7D68 F9A7n8632",
  "F9A8nAAC4 F9A9nA2B0 F9AAn9DC3 F9ABn9BF1 F9ACn9990 F9ADn85FB F9AEn8545 F9AFn7A15 F9B0n796A F9B1n677D F9B2n62BC F9B3n626B F9B4n619C F9B5nAA2A F9B6n8008 F9B7n6803 F9B8n6300 F9B9n98D8",
  "F9BAnAB34 F9BBnA8E1 F9BCn9DCE F9BDn9D7E F9BEn9425 F9BFn8FBD F9C0n87F2 F9C1n837F F9C2n74C6 F9C3n6947 F9C4n5A37 F9C5n933D F9C6n6398 F9C7nA73E F9C8n924D F9C9n91D6 F9CAn8C89 F9CBn8B2F",
  "F9CCn85C3 F9CDn8474 F9CEn8163 F9CFn7CBF F9D0n6172 F9D1nA864 F9D2n97A4 F9D3n635B F9D4nA9A9 F9D5n9CBC F9D6n8BEC F9D7n6AAD F9D8n9A4D F9D9n9895 F9DAn91C3 F9DBn8654 F9DCn6356 F9DDnA7B4",
  "F9DEnA5CF F9DFn9D7A F9E0n93CD F9E1n9293 F9E2n913A F9E3n8CFE F9E4n85DE F9E5n8403 F9E6n7A6D F9E7n7118 F9E8n7107 F9E9n681D F9EAn6308 F9EBnA6AC F9ECn8B32 F9EDnA5D0 F9EEn881E F9EFn8557",
  "F9F0n73F6 F9F1n634E F9F2n5D9B F9F3n5B54 F9F4n925D F9F5n8C2A F9F6n780E F9F7n7F2C F9F8n7ED8 F9F9n7D67 F9FAn873A F9FBn8962 F9FCn6EA4 F9FDnAB3D F9FEn76C8 F9FFnA7C5 FA00nA7F9 FA01n9B5B",
  "FA02n972F FA03n7D2D FA04n9E7F FA05n8CE7 FA06n9352 FA07n6ACC FA08n71BC FA09n63BC FA0An707F FA0Bn9B38 FA0CnA8CC FA0DnA44D FA0Ev FA10nA1B6 FA11v FA12n939E FA13v FA15nA837 FA16n86EC",
  "FA17n834D FA18n80DC FA19n80BB FA1An80B5 FA1Bn808C FA1Cn62C6 FA1Dn7D5F FA1En7A61 FA1Fv FA20n740E FA21v FA22n6F2A FA23v FA25n69ED FA26n6929 FA27v FA2An613B FA2Bn612F FA2Cn6104",
  "FA2Dn5C79 FA2En6950 FA2Fn6378 FA30nAA82 FA31nA94A FA32nA8E5 FA33nA76A FA34nA750 FA35nA6E4 FA36nA499 FA37nA431 FA38nA3D0 FA39nA1F9 FA3AnA192 FA3Bn9DD7 FA3Cn9DCE FA3Dn99A9 FA3En98D6",
  "FA3Fn98B1 FA40n984E FA41n94F2 FA42n9460 FA43n93B2 FA44n91BF FA45n8CCE FA46n8C2C FA47n8B25 FA48n88DA FA49n881E FA4An8628 FA4Bn81BA FA4Cn810E FA4Dn8104 FA4En8106 FA4Fn80FF FA50n80FA",
  "FA51n80F4 FA52n80C5 FA54n8014 FA55n7FD4 FA56n7E96 FA57n7C63 FA58n7C4F FA59n7C18 FA5An7AE8 FA5Bn7A56 FA5Cn786F FA5Dm8279 FA5Fn7608 FA60n7150 FA61n70CB FA62n6F61 FA63n6F2A FA64n6D91",
  "FA65n6D5D FA66n6AB0 FA67n6A2F FA68n6385 FA69n626A FA6An622F FA6Bn99F6 FA6Cp14882 FA6Dn7855 FA6Ex FA70nAC4A FA71nA8BC FA72nA90A FA73nAAF3 FA74nA92F FA75nA8F5 FA76nA7AF FA77nA77D",
  "FA78nA4DB FA79nA524 FA7AnA4E1 FA7BnA499 FA7CnA222 FA7DnA1CA FA7EnA13A FA7FnA12B FA80nA01E FA81n9F59 FA82n9BB0 FA83n9BAA FA84n9B1B FA85n9AD8 FA86n99AE FA87n9939 FA88n9980 FA89n98FB",
  "FA8An992A FA8Bn9899 FA8Cn9858 FA8Dn96C9 FA8En9672 FA8Fn963D FA90n953A FA91n941D FA92n937B FA93n9378 FA94n933E FA95n8F1C FA96n8EDC FA97n8D56 FA98n8BBD FA99n8BCE FA9An8B78 FA9Bn8A7D",
  "FA9Cn892E FA9Dn82F6 FA9En8869 FA9Fn87F0 FAA0n8776 FAA1n8630 FAA2n859C FAA3n8568 FAA4n8487 FAA5n8486 FAA6n83DC FAA7n83CC FAA8n83B4 FAA9n835F FAAAn836A FAABn81DF FAACn7FFB FAADn7EED",
  "FAAEn7E33 FAAFn7D54 FAB0n7CBC FAB1n7B73 FAB2n7AAD FAB3n7761 FAB4n76C5 FAB5n733C FAB6n7175 FAB7n7131 FAB8n7122 FAB9n6FFA FABAn6FC2 FABBn6FF0 FABCn6FBB FABDn6FBF FABEn6FD1 FABFn6F86",
  "FAC0n6F36 FAC1n6DB9 FAC2n6B8A FAC3n6A51 FAC4n692B FAC5n684F FAC6n644A FAC7n63E4 FAC8n6372 FAC9n62EE FACAn62CB FACBn62C0 FACCn6291 FACDn5FBB FACEn5B32 FACFp12D7B FAD0p12D74",
  "FAD1p13904 FAD2nBF35 FAD3nBABB FAD4nBA9B FAD5p15774 FAD6p161FA FAD7p183FC FAD8n5B95 FAD9n5B4B FADAx FB00m66,66 FB01m66,69 FB02m66,6C FB03m66,66,69 FB04m66,66,6C FB05m73,74 FB07x",
  "FB13m574,576 FB14m574,565 FB15m574,56B FB16m57E,576 FB17m574,56D FB18x FB1Dm5D9,5B4 FB1Ev FB1Fm5F2,5B7 FB20nF53E FB21nF551 FB22nF54F FB24nF549 FB27nF53F FB28nF53E FB29nFAFE",
  "FB2Am5E9,5C1 FB2Bm5E9,5C2 FB2Cm5E9,5BC,5C1 FB2Dm5E9,5BC,5C2 FB2Em5D0,5B7 FB2Fm5D0,5B8 FB30m5D0,5BC FB31m5D1,5BC FB32m5D2,5BC FB33m5D3,5BC FB34m5D4,5BC FB35m5D5,5BC FB36m5D6,5BC",
  "FB37x FB38m5D8,5BC FB39m5D9,5BC FB3Am5DA,5BC FB3Bm5DB,5BC FB3Cm5DC,5BC FB3Dx FB3Em5DE,5BC FB3Fx FB40m5E0,5BC FB41m5E1,5BC FB42x FB43m5E3,5BC FB44m5E4,5BC FB45x FB46m5E6,5BC",
  "FB47m5E7,5BC FB48m5E8,5BC FB49m5E9,5BC FB4Am5EA,5BC FB4Bm5D5,5B9 FB4Cm5D1,5BF FB4Dm5DB,5BF FB4Em5E4,5BF FB4Fm5D0,5DC FB50m671 FB52m67B FB56m67E FB5Am680 FB5Em67A FB62m67F FB66m679",
  "FB6Am6A4 FB6Em6A6 FB72m684 FB76m683 FB7Am686 FB7Em687 FB82m68D FB84m68C FB86m68E FB88m688 FB8Am698 FB8Cm691 FB8Em6A9 FB92m6AF FB96m6B3 FB9Am6B1 FB9Em6BA FBA0m6BB FBA4m6C0 FBA6m6C1",
  "FBAAm6BE FBAEm6D2 FBB0m6D3 FBB2v FBD3m6AD FBD7m6C7 FBD9m6C6 FBDBm6C8 FBDDm6C7,674 FBDEm6CB FBE0m6C5 FBE2m6C9 FBE4m6D0 FBE8m649 FBEAm626,627 FBECm626,6D5 FBEEm626,648 FBF0m626,6C7",
  "FBF2m626,6C6 FBF4m626,6C8 FBF6m626,6D0 FBF9m626,649 FBFCm6CC FC00m626,62C FC01m626,62D FC02m626,645 FC03m626,649 FC04m626,64A FC05m628,62C FC06m628,62D FC07m628,62E FC08m628,645",
  "FC09m628,649 FC0Am628,64A FC0Bm62A,62C FC0Cm62A,62D FC0Dm62A,62E FC0Em62A,645 FC0Fm62A,649 FC10m62A,64A FC11m62B,62C FC12m62B,645 FC13m62B,649 FC14m62B,64A FC15m62C,62D",
  "FC16m62C,645 FC17m62D,62C FC18m62D,645 FC19m62E,62C FC1Am62E,62D FC1Bm62E,645 FC1Cm633,62C FC1Dm633,62D FC1Em633,62E FC1Fm633,645 FC20m635,62D FC21m635,645 FC22m636,62C",
  "FC23m636,62D FC24m636,62E FC25m636,645 FC26m637,62D FC27m637,645 FC28m638,645 FC29m639,62C FC2Am639,645 FC2Bm63A,62C FC2Cm63A,645 FC2Dm641,62C FC2Em641,62D FC2Fm641,62E",
  "FC30m641,645 FC31m641,649 FC32m641,64A FC33m642,62D FC34m642,645 FC35m642,649 FC36m642,64A FC37m643,627 FC38m643,62C FC39m643,62D FC3Am643,62E FC3Bm643,644 FC3Cm643,645",
  "FC3Dm643,649 FC3Em643,64A FC3Fm644,62C FC40m644,62D FC41m644,62E FC42m644,645 FC43m644,649 FC44m644,64A FC45m645,62C FC46m645,62D FC47m645,62E FC48m645,645 FC49m645,649",
  "FC4Am645,64A FC4Bm646,62C FC4Cm646,62D FC4Dm646,62E FC4Em646,645 FC4Fm646,649 FC50m646,64A FC51m647,62C FC52m647,645 FC53m647,649 FC54m647,64A FC55m64A,62C FC56m64A,62D",
  "FC57m64A,62E FC58m64A,645 FC59m64A,649 FC5Am64A,64A FC5Bm630,670 FC5Cm631,670 FC5Dm649,670 FC5Em20,64C,651 FC5Fm20,64D,651 FC60m20,64E,651 FC61m20,64F,651 FC62m20,650,651",
  "FC63m20,651,670 FC64m626,631 FC65m626,632 FC66m626,645 FC67m626,646 FC68m626,649 FC69m626,64A FC6Am628,631 FC6Bm628,632 FC6Cm628,645 FC6Dm628,646 FC6Em628,649 FC6Fm628,64A",
  "FC70m62A,631 FC71m62A,632 FC72m62A,645 FC73m62A,646 FC74m62A,649 FC75m62A,64A FC76m62B,631 FC77m62B,632 FC78m62B,645 FC79m62B,646 FC7Am62B,649 FC7Bm62B,64A FC7Cm641,649",
  "FC7Dm641,64A FC7Em642,649 FC7Fm642,64A FC80m643,627 FC81m643,644 FC82m643,645 FC83m643,649 FC84m643,64A FC85m644,645 FC86m644,649 FC87m644,64A FC88m645,627 FC89m645,645",
  "FC8Am646,631 FC8Bm646,632 FC8Cm646,645 FC8Dm646,646 FC8Em646,649 FC8Fm646,64A FC90m649,670 FC91m64A,631 FC92m64A,632 FC93m64A,645 FC94m64A,646 FC95m64A,649 FC96m64A,64A",
  "FC97m626,62C FC98m626,62D FC99m626,62E FC9Am626,645 FC9Bm626,647 FC9Cm628,62C FC9Dm628,62D FC9Em628,62E FC9Fm628,645 FCA0m628,647 FCA1m62A,62C FCA2m62A,62D FCA3m62A,62E",
  "FCA4m62A,645 FCA5m62A,647 FCA6m62B,645 FCA7m62C,62D FCA8m62C,645 FCA9m62D,62C FCAAm62D,645 FCABm62E,62C FCACm62E,645 FCADm633,62C FCAEm633,62D FCAFm633,62E FCB0m633,645",
  "FCB1m635,62D FCB2m635,62E FCB3m635,645 FCB4m636,62C FCB5m636,62D FCB6m636,62E FCB7m636,645 FCB8m637,62D FCB9m638,645 FCBAm639,62C FCBBm639,645 FCBCm63A,62C FCBDm63A,645",
  "FCBEm641,62C FCBFm641,62D FCC0m641,62E FCC1m641,645 FCC2m642,62D FCC3m642,645 FCC4m643,62C FCC5m643,62D FCC6m643,62E FCC7m643,644 FCC8m643,645 FCC9m644,62C FCCAm644,62D",
  "FCCBm644,62E FCCCm644,645 FCCDm644,647 FCCEm645,62C FCCFm645,62D FCD0m645,62E FCD1m645,645 FCD2m646,62C FCD3m646,62D FCD4m646,62E FCD5m646,645 FCD6m646,647 FCD7m647,62C",
  "FCD8m647,645 FCD9m647,670 FCDAm64A,62C FCDBm64A,62D FCDCm64A,62E FCDDm64A,645 FCDEm64A,647 FCDFm626,645 FCE0m626,647 FCE1m628,645 FCE2m628,647 FCE3m62A,645 FCE4m62A,647",
  "FCE5m62B,645 FCE6m62B,647 FCE7m633,645 FCE8m633,647 FCE9m634,645 FCEAm634,647 FCEBm643,644 FCECm643,645 FCEDm644,645 FCEEm646,645 FCEFm646,647 FCF0m64A,645 FCF1m64A,647",
  "FCF2m640,64E,651 FCF3m640,64F,651 FCF4m640,650,651 FCF5m637,649 FCF6m637,64A FCF7m639,649 FCF8m639,64A FCF9m63A,649 FCFAm63A,64A FCFBm633,649 FCFCm633,64A FCFDm634,649 FCFEm634,64A",
  "FCFFm62D,649 FD00m62D,64A FD01m62C,649 FD02m62C,64A FD03m62E,649 FD04m62E,64A FD05m635,649 FD06m635,64A FD07m636,649 FD08m636,64A FD09m634,62C FD0Am634,62D FD0Bm634,62E",
  "FD0Cm634,645 FD0Dm634,631 FD0Em633,631 FD0Fm635,631 FD10m636,631 FD11m637,649 FD12m637,64A FD13m639,649 FD14m639,64A FD15m63A,649 FD16m63A,64A FD17m633,649 FD18m633,64A",
  "FD19m634,649 FD1Am634,64A FD1Bm62D,649 FD1Cm62D,64A FD1Dm62C,649 FD1Em62C,64A FD1Fm62E,649 FD20m62E,64A FD21m635,649 FD22m635,64A FD23m636,649 FD24m636,64A FD25m634,62C",
  "FD26m634,62D FD27m634,62E FD28m634,645 FD29m634,631 FD2Am633,631 FD2Bm635,631 FD2Cm636,631 FD2Dm634,62C FD2Em634,62D FD2Fm634,62E FD30m634,645 FD31m633,647 FD32m634,647",
  "FD33m637,645 FD34m633,62C FD35m633,62D FD36m633,62E FD37m634,62C FD38m634,62D FD39m634,62E FD3Am637,645 FD3Bm638,645 FD3Cm627,64B FD3Ev FD50m62A,62C,645 FD51m62A,62D,62C",
  "FD53m62A,62D,645 FD54m62A,62E,645 FD55m62A,645,62C FD56m62A,645,62D FD57m62A,645,62E FD58m62C,645,62D FD5Am62D,645,64A FD5Bm62D,645,649 FD5Cm633,62D,62C FD5Dm633,62C,62D",
  "FD5Em633,62C,649 FD5Fm633,645,62D FD61m633,645,62C FD62m633,645,645 FD64m635,62D,62D FD66m635,645,645 FD67m634,62D,645 FD69m634,62C,64A FD6Am634,645,62E FD6Cm634,645,645",
  "FD6Em636,62D,649 FD6Fm636,62E,645 FD71m637,645,62D FD73m637,645,645 FD74m637,645,64A FD75m639,62C,645 FD76m639,645,645 FD78m639,645,649 FD79m63A,645,645 FD7Am63A,645,64A",
  "FD7Bm63A,645,649 FD7Cm641,62E,645 FD7Em642,645,62D FD7Fm642,645,645 FD80m644,62D,645 FD81m644,62D,64A FD82m644,62D,649 FD83m644,62C,62C FD85m644,62E,645 FD87m644,645,62D",
  "FD89m645,62D,62C FD8Am645,62D,645 FD8Bm645,62D,64A FD8Cm645,62C,62D FD8Dm645,62C,645 FD8Em645,62E,62C FD8Fm645,62E,645 FD90v FD92m645,62C,62E FD93m647,645,62C FD94m647,645,645",
  "FD95m646,62D,645 FD96m646,62D,649 FD97m646,62C,645 FD99m646,62C,649 FD9Am646,645,64A FD9Bm646,645,649 FD9Cm64A,645,645 FD9Em628,62E,64A FD9Fm62A,62C,64A FDA0m62A,62C,649",
  "FDA1m62A,62E,64A FDA2m62A,62E,649 FDA3m62A,645,64A FDA4m62A,645,649 FDA5m62C,645,64A FDA6m62C,62D,649 FDA7m62C,645,649 FDA8m633,62E,649 FDA9m635,62D,64A FDAAm634,62D,64A",
  "FDABm636,62D,64A FDACm644,62C,64A FDADm644,645,64A FDAEm64A,62D,64A FDAFm64A,62C,64A FDB0m64A,645,64A FDB1m645,645,64A FDB2m642,645,64A FDB3m646,62D,64A FDB4m642,645,62D",
  "FDB5m644,62D,645 FDB6m639,645,64A FDB7m643,645,64A FDB8m646,62C,62D FDB9m645,62E,64A FDBAm644,62C,645 FDBBm643,645,645 FDBCm644,62C,645 FDBDm646,62C,62D FDBEm62C,62D,64A",
  "FDBFm62D,62C,64A FDC0m645,62C,64A FDC1m641,645,64A FDC2m628,62D,64A FDC3m643,645,645 FDC4m639,62C,645 FDC5m635,645,645 FDC6m633,62E,64A FDC7m646,62C,64A FDC8v FDD0x",
  "FDF0m635,644,6D2 FDF1m642,644,6D2 FDF2m627,644,644,647 FDF3m627,643,628,631 FDF4m645,62D,645,62F FDF5m635,644,639,645 FDF6m631,633,648,644 FDF7m639,644,64A,647 FDF8m648,633,644,645",
  "FDF9m635,644,649 FDFAm635,644,649,20,627,644,644,647,20,639,644,64A,647,20,648,633,644,645 FDFBm62C,644,20,62C,644,627,644,647 FDFCm631,6CC,627,644 FDFDv FE00i FE10nFDE4 FE11nCE10",
  "FE12x FE13nFDD9 FE15nFDF4 FE16nFDD7 FE17nCE01 FE19x FE20v FE30x FE31nDE1D FE32nDE1F FE33m5F FE35nFE0D FE37nFDBC FE38nFDBB FE39nCE25 FE3BnCE2B FE3DnCE33 FE3FnCE37 FE41nCE35 FE45v",
  "FE47nFDEC FE48nFDEB FE49m20,305 FE4Dm5F FE50nFE24 FE51nCE50 FE52x FE54nFE19 FE55nFE1B FE56nFE17 FE57nFE36 FE58nDE44 FE59nFE31 FE5BnFDE0 FE5CnFDDF FE5DnCE49 FE5FnFE3C FE60nFE3A",
  "FE61nFE37 FE63nFE36 FE64nFE28 FE65nFE27 FE66nFE29 FE67x FE68nFE0C FE69nFE45 FE6BnFE2B FE6Cx FE70m20,64B FE71m640,64B FE72m20,64C FE73v FE74m20,64D FE75x FE76m20,64E FE77m640,64E",
  "FE78m20,64F FE79m640,64F FE7Am20,650 FE7Bm640,650 FE7Cm20,651 FE7Dm640,651 FE7Em20,652 FE7Fm640,652 FE80nF85F FE81m622 FE83m623 FE85m624 FE87m625 FE89m626 FE8Dm627 FE8Fm628",
  "FE93m629 FE95m62A FE99m62B FE9Dm62C FEA1m62D FEA5m62E FEA9m62F FEABm630 FEADm631 FEAFm632 FEB1m633 FEB5m634 FEB9m635 FEBDm636 FEC1m637 FEC5m638 FEC9m639 FECDm63A FED1m641 FED5m642",
  "FED9m643 FEDDm644 FEE1m645 FEE5m646 FEE9m647 FEEDm648 FEEFm649 FEF1m64A FEF5m644,622 FEF7m644,623 FEF9m644,625 FEFBm644,627 FEFDx FEFFi FF00x FF01nFEE0 FF21nFEC0 FF3BnFEE0",
  "FF5FnD5DA FF61nFF33 FF62nCF56 FF64nCF63 FF65nCE6A FF66nCE74 FF67nCEC6 FF68nCEC5 FF69nCEC4 FF6AnCEC3 FF6BnCEC2 FF6CnCE89 FF6DnCE88 FF6EnCE87 FF6FnCEAC FF70nCE74 FF71nCECF FF72nCECE",
  "FF73nCECD FF74nCECC FF75nCECB FF77nCECA FF78nCEC9 FF79nCEC8 FF7AnCEC7 FF7BnCEC6 FF7CnCEC5 FF7DnCEC4 FF7EnCEC3 FF7FnCEC2 FF80nCEC1 FF81nCEC0 FF82nCEBE FF83nCEBD FF84nCEBC FF85nCEBB",
  "FF8BnCEB9 FF8CnCEB7 FF8DnCEB5 FF8EnCEB3 FF8FnCEB1 FF94nCEB0 FF95nCEAF FF96nCEAE FF9CnCEAD FF9DnCEAA FF9EnCF05 FFA0i FFA1nEEA1 FFA3nEDF9 FFA4nEEA2 FFA5nEDF9 FFA7nEEA4 FFAAnEDFA",
  "FFB0nEE96 FFB1nEEAB FFB4nEE93 FFB5nEEAC FFBFx FFC2nEE61 FFC8x FFCAnEE63 FFD0x FFD2nEE65 FFD8x FFDAnEE67 FFDDx FFE0nFF3E FFE2nFF36 FFE3m20,304 FFE4nFF3E FFE5nFF40 FFE6nDF3D FFE7x",
  "FFE8nDAE6 FFE9nDE59 FFEDnDA4D FFEEnDA23 FFEFx 10000v 1000Cx 1000Dv 10027x 10028v 1003Bx 1003Cv 1003Ex 1003Fv 1004Ex 10050v 1005Ex 10080v 100FBx 10100v 10103x 10107v 10134x 10137v",
  "1018Fx 10190v 1019Dx 101A0v 101A1x 101D0v 101FEx 10280v 1029Dx 102A0v 102D1x 102E0v 102FCx 10300v 10324x 1032Dv 1034Bx 10350v 1037Bx 10380v 1039Ex 1039Fv 103C4x 103C8v 103D6x",
  "10400p28 10428v 1049Ex 104A0v 104AAx 104B0p28 104D4x 104D8v 104FCx 10500v 10528x 10530v 10564x 1056Fv 10570p27 1057Bx 1057Cp27 1058Bx 1058Cp27 10593x 10594p27 10596x 10597v 105A2x",
  "105A3v 105B2x 105B3v 105BAx 105BBv 105BDx 105C0v 105F4x 10600v 10737x 10740v 10756x 10760v 10768x 10780v 10781n104B1 10783n1069D 10784n104EB 10785n10532 10786x 10787n104E4",
  "10788n5C22 10789n104E4 1078An104E6 1078Bn10535 1078DnE9FC 1078En10536 1078Fn10531 10790n104E7 10791n1052D 10792n10530 10793n10533 10794n104F9 10795n1066E 10796n104FA 10797n10530",
  "10798n10514 10799n104EF 1079Bn1052F 1079CpD768 1079Dn600F 1079En10530 1079FpD766 107A0n10512 107A1pD765 107A2n106AA 107A3n1052D 107A5n10734 107A6n1052C 107A7pD761 107A8n1052B",
  "107AAn1052A 107ABn10503 107ACn10506 107ADn5C46 107AEn10507 107AFn10527 107B0nDB3F 107B1x 107B2n10523 107B3n10512 107B5n1051D 107B6n105F6 107B9pD751 107BApD764 107BBp0 107BCx",
  "107BFp0 107C0x 10800v 10806x 10808v 10809x 1080Av 10836x 10837v 10839x 1083Cv 1083Dx 1083Fv 10856x 10857v 1089Fx 108A7v 108B0x 108E0v 108F3x 108F4v 108F6x 108FBv 1091Cx 1091Fv",
  "1093Ax 1093Fv 1095Ax 10980v 109B8x 109BCv 109D0x 109D2v 10A04x 10A05v 10A07x 10A0Cv 10A14x 10A15v 10A18x 10A19v 10A36x 10A38v 10A3Bx 10A3Fv 10A49x 10A50v 10A59x 10A60v 10AA0x",
  "10AC0v 10AE7x 10AEBv 10AF7x 10B00v 10B36x 10B39v 10B56x 10B58v 10B73x 10B78v 10B92x 10B99v 10B9Dx 10BA9v 10BB0x 10C00v 10C49x 10C80p40 10CB3x 10CC0v 10CF3x 10CFAv 10D28x 10D30v",
  "10D3Ax 10D40v 10D50p20 10D66x 10D69v 10D86x 10D8Ev 10D90x 10E60v 10E7Fx 10E80v 10EAAx 10EABv 10EAEx 10EB0v 10EB2x 10EC2v 10EC8x 10EC9v 10ECCx 10ECEv 10EDAx 10EE5v 10EE6x 10EEEv",
  "10EEFx 10EF0v 10EF1x 10EF3v 10EF4x 10EF5v 10EF6x 10EF7v 10EF8x 10EF9v 10F28x 10F30v 10F5Ax 10F70v 10F8Ax 10FB0v 10FCCx 10FE0v 10FF7x 11000v 1104Ex 11052v 11076x 1107Fv 110BDx",
  "110BEv 110C3x 110D0v 110E9x 110F0v 110FAx 11100v 11135x 11136v 11148x 11150v 11177x 11180v 111E0x 111E1v 111F5x 11200v 11212x 11213v 11242x 11280v 11287x 11288v 11289x 1128Av",
  "1128Ex 1128Fv 1129Ex 1129Fv 112AAx 112B0v 112EBx 112F0v 112FAx 11300v 11304x 11305v 1130Dx 1130Fv 11311x 11313v 11329x 1132Av 11331x 11332v 11334x 11335v 1133Ax 1133Bv 11345x",
  "11347v 11349x 1134Bv 1134Ex 11350v 11351x 11357v 11358x 1135Dv 11364x 11366v 1136Dx 11370v 11375x 11380v 1138Ax 1138Bv 1138Cx 1138Ev 1138Fx 11390v 113B6x 113B7v 113C1x 113C2v",
  "113C3x 113C5v 113C6x 113C7v 113CBx 113CCv 113D6x 113D7v 113D9x 113E1v 113E3x 11400v 1145Cx 1145Dv 11462x 11480v 114C8x 114D0v 114DAx 11580v 115B6x 115B8v 115DEx 11600v 11645x",
  "11650v 1165Ax 11660v 1166Dx 11680v 116BAx 116C0v 116CAx 116D0v 116E4x 11700v 1171Bx 1171Dv 1172Cx 11730v 11747x 11800v 1183Cx 118A0p20 118C0v 118F3x 118FFv 11907x 11909v 1190Ax",
  "1190Cv 11914x 11915v 11917x 11918v 11936x 11937v 11939x 1193Bv 11947x 11950v 1195Ax 119A0v 119A8x 119AAv 119D8x 119DAv 119E5x 11A00v 11A48x 11A50v 11AA3x 11AB0v 11AF9x 11B00v",
  "11B0Ax 11B60v 11B68x 11BC0v 11BE2x 11BF0v 11BFAx 11C00v 11C09x 11C0Av 11C37x 11C38v 11C46x 11C50v 11C6Dx 11C70v 11C90x 11C92v 11CA8x 11CA9v 11CB7x 11D00v 11D07x 11D08v 11D0Ax",
  "11D0Bv 11D37x 11D3Av 11D3Bx 11D3Cv 11D3Ex 11D3Fv 11D48x 11D50v 11D5Ax 11D60v 11D66x 11D67v 11D69x 11D6Av 11D8Fx 11D90v 11D92x 11D93v 11D99x 11DA0v 11DAAx 11DB0v 11DDCx 11DE0v",
  "11DEAx 11DF0v 11DF2x 11EE0v 11EF9x 11F00v 11F11x 11F12v 11F3Bx 11F3Ev 11F5Bx 11FB0v 11FB1x 11FC0v 11FF2x 11FFFv 1239Ax 12400v 1246Fx 12470v 12476x 1247Fv 12544x 12550v 12551x",
  "12600v 12601x 12686v 12687x 12F90v 12FF3x 13000v 13430x 13440v 13456x 13460v 143FBx 14400v 14647x 16100v 1613Ax 16800v 16A39x 16A40v 16A5Fx 16A60v 16A6Ax 16A6Ev 16ABFx 16AC0v",
  "16ACAx 16AD0v 16AEEx 16AF0v 16AF6x 16B00v 16B46x 16B50v 16B5Ax 16B5Bv 16B62x 16B63v 16B78x 16B7Dv 16B90x 16D40v 16D7Ax 16E40p20 16E60v 16E9Bx 16EA0p1B 16EB9x 16EBBv 16ED4x 16F00v",
  "16F4Bx 16F4Fv 16F88x 16F8Fv 16FA0x 16FE0v 16FE5x 16FF0v 16FF7x 17000v 18CD7x 18CDAv 18CDBx 18CFFv 18D21x 18D80v 18DF3x 18E00v 18E01x 19191v 19192x 191D2v 191D3x 1AFF0v 1AFF4x",
  "1AFF5v 1AFFCx 1AFFDv 1AFFFx 1B000v 1B123p0 1B124x 1B127v 1B128x 1B132v 1B133x 1B150v 1B153x 1B155v 1B156x 1B164v 1B169x 1B170v 1B2FCx 1BC00v 1BC6Bx 1BC70v 1BC7Dx 1BC80v 1BC89x",
  "1BC90v 1BC9Ax 1BC9Cv 1BCA0i 1BCA4x 1CC00v 1CCD6n1CC75 1CCF0n1CCC0 1CCFAv 1CCFDx 1CD00v 1CEB4x 1CEBAv 1CED1x 1CED2v 1CED3x 1CED4v 1CED5x 1CEDDv 1CEDEx 1CEDFv 1CEF2x 1CEFDv 1CEFEx",
  "1CF00v 1CF2Ex 1CF30v 1CF47x 1CF50v 1CFC4x 1D000v 1D0F6x 1D100v 1D15Em1D157,1D165 1D15Fm1D158,1D165 1D160m1D158,1D165,1D16E 1D161m1D158,1D165,1D16F 1D162m1D158,1D165,1D170",
  "1D163m1D158,1D165,1D171 1D164m1D158,1D165,1D172 1D165v 1D173i 1D17Bv 1D1BBm1D1B9,1D165 1D1BCm1D1BA,1D165 1D1BDm1D1B9,1D165,1D16E 1D1BEm1D1BA,1D165,1D16E 1D1BFm1D1B9,1D165,1D16F",
  "1D1C0m1D1BA,1D165,1D16F 1D1C1v 1D1EDx 1D200v 1D246x 1D250v 1D251x 1D253v 1D254x 1D257v 1D259x 1D25Av 1D25Dx 1D260v 1D261x 1D27Fv 1D280x 1D281v 1D282x 1D2C0v 1D2D4x 1D2E0v 1D2F4x",
  "1D300v 1D357x 1D360v 1D379x 1D400n1D39F 1D41An1D3B9 1D434n1D3D3 1D44En1D3ED 1D455x 1D456n1D3ED 1D468n1D407 1D482n1D421 1D49Cn1D43B 1D49Dx 1D49En1D43B 1D4A0x 1D4A2n1D43B 1D4A3x",
  "1D4A5n1D43B 1D4A7x 1D4A9n1D43B 1D4ADx 1D4AEn1D43B 1D4B6n1D455 1D4BAx 1D4BBn1D455 1D4BCx 1D4BDn1D455 1D4C4x 1D4C5n1D455 1D4D0n1D46F 1D4EAn1D489 1D504n1D4A3 1D506x 1D507n1D4A3 1D50Bx",
  "1D50Dn1D4A3 1D515x 1D516n1D4A3 1D51Dx 1D51En1D4BD 1D538n1D4D7 1D53Ax 1D53Bn1D4D7 1D53Fx 1D540n1D4D7 1D545x 1D546n1D4D7 1D547x 1D54An1D4D7 1D551x 1D552n1D4F1 1D56Cn1D50B 1D586n1D525",
  "1D5A0n1D53F 1D5BAn1D559 1D5D4n1D573 1D5EEn1D58D 1D608n1D5A7 1D622n1D5C1 1D63Cn1D5DB 1D656n1D5F5 1D670n1D60F 1D68An1D629 1D6A4n1D573 1D6A5n1D46E 1D6A6p0 1D6A7x 1D6A8n1D2F7",
  "1D6B9n1D301 1D6BAn1D2F7 1D6C1n1B4BA 1D6C2n1D311 1D6D3m3C3 1D6D5n1D311 1D6DBn1B4D9 1D6DCn1D327 1D6DDn1D325 1D6DEn1D324 1D6DFn1D319 1D6E0n1D31F 1D6E1n1D321 1D6E2n1D331 1D6F3n1D33B",
  "1D6F4n1D331 1D6FBn1B4F4 1D6FCn1D34B 1D70Dm3C3 1D70Fn1D34B 1D715n1B513 1D716n1D361 1D717n1D35F 1D718n1D35E 1D719n1D353 1D71An1D359 1D71Bn1D35B 1D71Cn1D36B 1D72Dn1D375 1D72En1D36B",
  "1D735n1B52E 1D736n1D385 1D747m3C3 1D749n1D385 1D74Fn1B54D 1D750n1D39B 1D751n1D399 1D752n1D398 1D753n1D38D 1D754n1D393 1D755n1D395 1D756n1D3A5 1D767n1D3AF 1D768n1D3A5 1D76Fn1B568",
  "1D770n1D3BF 1D781m3C3 1D783n1D3BF 1D789n1B587 1D78An1D3D5 1D78Bn1D3D3 1D78Cn1D3D2 1D78Dn1D3C7 1D78En1D3CD 1D78Fn1D3CF 1D790n1D3DF 1D7A1n1D3E9 1D7A2n1D3DF 1D7A9n1B5A2 1D7AAn1D3F9",
  "1D7BBm3C3 1D7BDn1D3F9 1D7C3n1B5C1 1D7C4n1D40F 1D7C5n1D40D 1D7C6n1D40C 1D7C7n1D401 1D7C8n1D407 1D7C9n1D409 1D7CAm3DD 1D7CCx 1D7CEn1D79E 1D7D8n1D7A8 1D7E2n1D7B2 1D7ECn1D7BC",
  "1D7F6n1D7C6 1D800v 1DA8Cx 1DA9Bv 1DAA0x 1DAA1v 1DAB0x 1DB00v 1DB01x 1DB1Cv 1DB1Dx 1DF00v 1DF20x 1DF24v 1DF2Cx 1DF30v 1DF34x 1DF50v 1DF51x 1DF90v 1DF91x 1DF96v 1DF97x 1DFCDv 1DFCEx",
  "1DFFFp0 1E000v 1E007x 1E008v 1E019x 1E01Bv 1E022x 1E023v 1E025x 1E026v 1E02Bx 1E030n1DC00 1E039n1DBFF 1E03Cn1DBFE 1E047n1DBFC 1E048n1DBFB 1E04An139C1 1E04Bn1DB72 1E04Cn1DBF6",
  "1E04Dn1DBF5 1E04En1DB65 1E04Fn1DBA0 1E050n1DB81 1E051n1DC21 1E05An1DC20 1E05Cn1DC1E 1E05En1DC1D 1E05Fn1DC1C 1E065n1DC1B 1E067n1DBD6 1E068n1DC12 1E069n1DC14 1E06An1DC0B 1E06Bn1DBC0",
  "1E06Cn13A1B 1E06Dn1DBBC 1E06Ex 1E08Fv 1E090x 1E100v 1E12Dx 1E130v 1E13Ex 1E140v 1E14Ax 1E14Ev 1E150x 1E290v 1E2AFx 1E2C0v 1E2FAx 1E2FFv 1E300x 1E4D0v 1E4FAx 1E5D0v 1E5FBx 1E5FFv",
  "1E600x 1E6C0v 1E6DFx 1E6E0v 1E6F6x 1E6FEv 1E700x 1E7E0v 1E7E7x 1E7E8v 1E7ECx 1E7EDv 1E7EFx 1E7F0v 1E7FFx 1E800v 1E8C5x 1E8C7v 1E8D7x 1E900p22 1E922v 1E94Cx 1E950v 1E95Ax 1E95Ev",
  "1E960x 1EC71v 1ECB5x 1ED01v 1ED3Ex 1EE00n1E7D9 1EE02n1E7D6 1EE03n1E7D4 1EE04x 1EE05n1E7BD 1EE06n1E7D4 1EE07n1E7DA 1EE08n1E7D1 1EE09n1E7BF 1EE0An1E7C7 1EE0En1E7DB 1EE0Fn1E7D6",
  "1EE10n1E7CF 1EE11n1E7DC 1EE12n1E7D0 1EE13n1E7E2 1EE14n1E7E0 1EE15n1E7EB 1EE17n1E7E9 1EE18n1E7E8 1EE19n1E7E3 1EE1An1E7E2 1EE1Bn1E7E1 1EE1Cn1E7AE 1EE1Dn1E763 1EE1En1E77D 1EE1Fn1E7B0",
  "1EE20x 1EE21n1E7F9 1EE22n1E7F6 1EE23x 1EE24n1E7DD 1EE25x 1EE27n1E7FA 1EE28x 1EE29n1E7DF 1EE2An1E7E7 1EE2En1E7FB 1EE2Fn1E7F6 1EE30n1E7EF 1EE31n1E7FC 1EE32n1E7F0 1EE33x 1EE34n1E800",
  "1EE35n1E80B 1EE37n1E809 1EE38x 1EE39n1E803 1EE3Ax 1EE3Bn1E801 1EE3Cx 1EE42n1E816 1EE43x 1EE47n1E81A 1EE48x 1EE49n1E7FF 1EE4Ax 1EE4Bn1E807 1EE4Cx 1EE4Dn1E807 1EE4En1E81B 1EE4Fn1E816",
  "1EE50x 1EE51n1E81C 1EE52n1E810 1EE53x 1EE54n1E820 1EE55x 1EE57n1E829 1EE58x 1EE59n1E823 1EE5Ax 1EE5Bn1E821 1EE5Cx 1EE5Dn1E7A3 1EE5Ex 1EE5Fn1E7F0 1EE60x 1EE61n1E839 1EE62n1E836",
  "1EE63x 1EE64n1E81D 1EE65x 1EE67n1E83A 1EE68n1E831 1EE69n1E81F 1EE6An1E827 1EE6Bx 1EE6Cn1E827 1EE6En1E83B 1EE6Fn1E836 1EE70n1E82F 1EE71n1E83C 1EE72n1E830 1EE73x 1EE74n1E840",
  "1EE75n1E84B 1EE77n1E849 1EE78x 1EE79n1E843 1EE7An1E842 1EE7Bn1E841 1EE7Cn1E80E 1EE7Dx 1EE7En1E7DD 1EE7Fx 1EE80n1E859 1EE82n1E856 1EE83n1E854 1EE84n1E83D 1EE86n1E854 1EE87n1E85A",
  "1EE88n1E851 1EE89n1E83F 1EE8Ax 1EE8Bn1E847 1EE8En1E85B 1EE8Fn1E856 1EE90n1E84F 1EE91n1E85C 1EE92n1E850 1EE93n1E862 1EE94n1E860 1EE95n1E86B 1EE97n1E869 1EE98n1E868 1EE99n1E863",
  "1EE9An1E862 1EE9Bn1E861 1EE9Cx 1EEA1n1E879 1EEA2n1E876 1EEA3n1E874 1EEA4x 1EEA5n1E85D 1EEA6n1E874 1EEA7n1E87A 1EEA8n1E871 1EEA9n1E85F 1EEAAx 1EEABn1E867 1EEAEn1E87B 1EEAFn1E876",
  "1EEB0n1E86F 1EEB1n1E87C 1EEB2n1E870 1EEB3n1E882 1EEB4n1E880 1EEB5n1E88B 1EEB7n1E889 1EEB8n1E888 1EEB9n1E883 1EEBAn1E882 1EEBBn1E881 1EEBCx 1EEF0v 1EEF2x 1F000v 1F02Cx 1F030v 1F094x",
  "1F0A0v 1F0AFx 1F0B1v 1F0C0x 1F0C1v 1F0D0x 1F0D1v 1F0F6x 1F101m30,2C 1F102m31,2C 1F103m32,2C 1F104m33,2C 1F105m34,2C 1F106m35,2C 1F107m36,2C 1F108m37,2C 1F109m38,2C 1F10Am39,2C",
  "1F10Bv 1F110m28,61,29 1F111m28,62,29 1F112m28,63,29 1F113m28,64,29 1F114m28,65,29 1F115m28,66,29 1F116m28,67,29 1F117m28,68,29 1F118m28,69,29 1F119m28,6A,29 1F11Am28,6B,29",
  "1F11Bm28,6C,29 1F11Cm28,6D,29 1F11Dm28,6E,29 1F11Em28,6F,29 1F11Fm28,70,29 1F120m28,71,29 1F121m28,72,29 1F122m28,73,29 1F123m28,74,29 1F124m28,75,29 1F125m28,76,29 1F126m28,77,29",
  "1F127m28,78,29 1F128m28,79,29 1F129m28,7A,29 1F12Am3014,73,3015 1F12Bn1F0C8 1F12Cn1F0BA 1F12Dm63,64 1F12Em77,7A 1F12Fv 1F130n1F0CF 1F14Am68,76 1F14Bm6D,76 1F14Cm73,64 1F14Dm73,73",
  "1F14Em70,70,76 1F14Fm77,63 1F150v 1F16Am6D,63 1F16Bm6D,64 1F16Cm6D,72 1F16Dv 1F190m64,6A 1F191v 1F1AFx 1F1E6v 1F200m307B,304B 1F201m30B3,30B3 1F202n1C14D 1F203x 1F210n18FC5",
  "1F211n196BA 1F212n19E46 1F213n1C14C 1F214n1A388 1F215n198FB 1F216n16833 1F217n198EE 1F218n1A374 1F219n18BF9 1F21An180F9 1F21Bn18C82 1F21Cn19FCF 1F21Dn19291 1F21En1A091 1F21Fn18C6F",
  "1F220n1A003 1F221n174DF 1F222n17D03 1F223n1657A 1F224n19934 1F225n19DEC 1F226n18312 1F227n18F92 1F228n18ED3 1F229n1A429 1F22An1A421 1F22Bn161E1 1F22Cn19446 1F22Dn1A400 1F22En19E3B",
  "1F22Fn18F28 1F230n164C0 1F231n18FDE 1F232n178B1 1F233n177B9 1F234n19E2C 1F235n183B5 1F236n18B2D 1F237n18B2F 1F238n17D05 1F239n19FC7 1F23An19C84 1F23Bn160EE 1F23Cx",
  "1F240m3014,672C,3015 1F241m3014,4E09,3015 1F242m3014,4E8C,3015 1F243m3014,5B89,3015 1F244m3014,70B9,3015 1F245m3014,6253,3015 1F246m3014,76D7,3015 1F247m3014,52DD,3015",
  "1F248m3014,6557,3015 1F249x 1F250n192B9 1F251n19E62 1F252x 1F260v 1F266x 1F300v 1F6DAx 1F6DCv 1F6EDx 1F6F0v 1F6FDx 1F700v 1F7DCx 1F7E0v 1F7ECx 1F7F0v 1F7F3x 1F800v 1F80Cx 1F810v",
  "1F848x 1F850v 1F85Ax 1F860v 1F888x 1F890v 1F8AEx 1F8B0v 1F8BCx 1F8C0v 1F8C2x 1F8D0v 1F8D9x 1F900v 1FA58x 1FA60v 1FA6Ex 1FA70v 1FA7Dx 1FA80v 1FAC7x 1FAC8v 1FAC9x 1FACCv 1FADEx",
  "1FADFv 1FAECx 1FAEFv 1FAFBx 1FB00v 1FB93x 1FB94v 1FBF0n1FBC0 1FBFAv 1FBFBx 20000v 2A6E0x 2A700v 2B81Fx 2B820v 2CEAEx 2CEB0v 2EBE1x 2EBF0v 2EE5Ex 2F800n2A9C3 2F801n2A9C9 2F802n2A9C1",
  "2F803nF6E1 2F804n2A8A4 2F805n2A857 2F806n2A84B 2F807n2A805 2F808n2A78E 2F809n2A770 2F80An2A723 2F80Bn2A73C 2F80Cn2C36E 2F80DnF1D3 2F80En2A6C1 2F80Fn2A6BB 2F810n2A6AC 2F811n2A69A",
  "2F812nF2F6 2F813n2C35A 2F814n2A6AD 2F815n2A688 2F816nF2CB 2F817n2A680 2F818n2A674 2F819n2A94D 2F81An2A66E 2F81Bn2A666 2F81Cn663D 2F81Dn2A628 2F81En2A61B 2F81Fn2C340 2F820n2A5E5",
  "2F821n2A5DB 2F822n2A5B0 2F823n2A5AC 2F824n2C30F 2F825n2A55E 2F826n2A55D 2F827n2A543 2F828n2A52E 2F829n2A524 2F82Bn2A514 2F82Cn2A4E3 2F82Dn2A4DC 2F82En2A4D4 2F82Fn2A4BC 2F830n2A4B3",
  "2F831m537F 2F834nEE08 2F835n287C5 2F836n2A46C 2F837n2A458 2F838nECD5 2F839n2A44E 2F83An2A449 2F83Bn2A435 2F83Cn2A39E 2F83Dn2A405 2F83En2A3F6 2F83Fn2A3D7 2F840n2A39E 2F841n2A34B",
  "2F842n2A332 2F843n2A2F0 2F844n2A2E1 2F845m5584 2F847n2A2AE 2F848n2A29D 2F849n2A296 2F84An2A288 2F84Bn2A135 2F84Cn2A246 2F84Dn2A136 2F84En2A1FD 2F84Fn2A1DB 2F850n2A649 2F851n29F63",
  "2F852n2A084 2F853n2A05F 2F854n2A047 2F855n2A0CA 2F856n2A024 2F857n2A026 2F858n29FAC 2F859nE375 2F85An29F68 2F85Bn29F64 2F85Cn29F56 2F85Dn29F43 2F85En29F3C 2F85Fn29EFD 2F860nE1B8",
  "2F861nE177 2F862n29E76 2F863n29E48 2F864n29E3D 2F865n29E8D 2F866n29E00 2F867n2C179 2F868n2C16C 2F869n29D61 2F86Am5B3E 2F86CnDEA4 2F86Dn29CAA 2F86En29C96 2F86Fn29C88 2F870n29C7D",
  "2F871nDD59 2F872n29C73 2F873n29C6D 2F874n29921 2F875n29C53 2F876n2C0F5 2F877n29C17 2F878n29C0A 2F879n29BB9 2F87An29BED 2F87BnDA97 2F87Cn29B39 2F87DnDA97 2F87En29B10 2F87Fn29B14",
  "2F880n29B04 2F881n29AA0 2F883n2C054 2F884n29A87 2F885n29A5D 2F886n29A49 2F887n29A1E 2F888n2C026 2F889nD706 2F88An2C00E 2F88Bn299DB 2F88Cn299D9 2F88Dn299D7 2F88En299C4 2F88Fn54FD",
  "2F890n29992 2F891m22331 2F893n27692 2F894m5F22 2F896n2BFCF 2F897nC5DF 2F898n96BE 2F899n29937 2F89An2992F 2F89Bn2BFB8 2F89Cn29902 2F89Dn298D0 2F89En298C7 2F89Fn298A6 2F8A0n2981F",
  "2F8A1n2BF67 2F8A2n2BF86 2F8A3n2980F 2F8A4nD1D0 2F8A5n297DE 2F8A6n2975E 2F8A7n2975B 2F8A8n2975A 2F8A9n2975D 2F8AAn29730 2F8ABn2971D 2F8ACn296FA 2F8ADn29709 2F8AEn296FF 2F8AFn296D1",
  "2F8B0n296BE 2F8B1n296BB 2F8B2n296A2 2F8B3n29698 2F8B4n29657 2F8B5n29604 2F8B6n295E2 2F8B7n29567 2F8B8nCDAC 2F8B9n2957C 2F8BAn295BE 2F8BBn29553 2F8BCn29539 2F8BDn294D9 2F8BEnCCCD",
  "2F8BFn2949D 2F8C0n294FB 2F8C1n29518 2F8C2n2BE94 2F8C3n2945A 2F8C4n29446 2F8C5n29428 2F8C6n2944F 2F8C7n2BE5B 2F8C8n29379 2F8C9n2935D 2F8CAnC8C0 2F8CBn292E8 2F8CCn291D4 2F8CDn29284",
  "2F8CEn2BDB5 2F8CFn2923E 2F8D0n2BDC8 2F8D1n2BDED 2F8D2n2A740 2F8D3n2A73E 2F8D4n291D4 2F8D5n29239 2F8D6n27829 2F8D7n2B4FE 2F8D8n291C1 2F8D9n291BE 2F8DAn291B9 2F8DBn2917D 2F8DCn29189",
  "2F8DDnC51A 2F8DEn2BD95 2F8DFn290E5 2F8E0n2915B 2F8E1n2908F 2F8E2n2905D 2F8E3nC476 2F8E4n29056 2F8E5n290C6 2F8E6n28FD2 2F8E7n2BD4A 2F8E8n28FA6 2F8E9n28F46 2F8EAn28F00 2F8EBn28E43",
  "2F8ECnC249 2F8EDn28E12 2F8EEn2BCD6 2F8EFn28DCE 2F8F0nC049 2F8F1n28D9D 2F8F2n2BCA4 2F8F3n28D81 2F8F4n28D55 2F8F5n28D3B 2F8F7nBE6A 2F8F8nDBED 2F8F9nBDFF 2F8FAn28CAC 2F8FBnBC3F",
  "2F8FCn28C3D 2F8FDn28C30 2F8FEn28C97 2F8FFn28BE9 2F900n28BC2 2F901n28B8A 2F902n28BC1 2F903n28B9A 2F904n28B8C 2F905n28B80 2F906nBBE8 2F907n28BD3 2F908n28AD9 2F909n28A9B 2F90An2BBD7",
  "2F90Bn28A40 2F90Cn28A45 2F90DnBA3C 2F90En28B15 2F90Fn289A1 2F910nB9B2 2F911nB983 2F912n2894C 2F913n288DA 2F914n288F6 2F915n288FA 2F916n2BB80 2F917n288CD 2F918n2889B 2F919n288A2",
  "2F91An2886D 2F91BnF3F6 2F91Cn287D7 2F91DnB6BA 2F91En28782 2F91FnB574 2F920n286F8 2F921n286EC 2F922n286D2 2F923nB31B 2F924n286A4 2F925n28690 2F926nB1F1 2F927nB113 2F928n285AE",
  "2F929n2859E 2F92An2BA7E 2F92Bn28586 2F92Cm3EB8 2F92En284E7 2F92Fn284D3 2F930n284BF 2F931n284AC 2F932n28468 2F933n2BA18 2F934n28410 2F935nACFF 2F936n283F8 2F937nACA5 2F938n283C8",
  "2F939nD79A 2F93An2832A 2F93BnA99A 2F93CnA984 2F93DnA8F9 2F93En2B942 2F93Fn2B937 2F940n2824C 2F941nA84E 2F942nA850 2F943nA82A 2F944nA811 2F945n28227 2F946m771F 2F948n281FE",
  "2F949n2B910 2F94An281BF 2F94Bn2B905 2F94Cn2B8B6 2F94DnA530 2F94En28100 2F94Fn280C3 2F950n28084 2F951n2B86E 2F952nA32C 2F953n27FFD 2F954nA2BA 2F955nA290 2F956n27FC7 2F957n27F6C",
  "2F958n2B829 2F959n27F19 2F95An27F10 2F95Bn27F0C 2F95Cn9FE0 2F95Dm25AA7 2F95Fn27E71 2F960n2B75E 2F961n9DB6 2F962n27D9C 2F963n27D9A 2F964n2B73D 2F965n9CE5 2F966n27C94 2F967n2B6C7",
  "2F968n27C80 2F969n27C86 2F96An27C6A 2F96Bn99E5 2F96Cn27C09 2F96Dn2B66C 2F96En27BA7 2F96Fn27B6D 2F970n27B2B 2F971n2B63D 2F972n974A 2F973n972C 2F974n2B61B 2F975n969C 2F976n279FC",
  "2F977n9639 2F978n279E3 2F979n2797F 2F97An27975 2F97Bn94A1 2F97Cn9459 2F97Dn2791D 2F97En93D6 2F97Fn2790F 2F980nC621 2F981n2B5AC 2F982n278D0 2F983n27880 2F984n2B579 2F985n27847",
  "2F986n29ED1 2F987n91E0 2F988n91D3 2F989nC5F6 2F98AnC5EE 2F98Bn2778A 2F98Cn27788 2F98Dn269EF 2F98En2B523 2F98Fn276FE 2F990n27705 2F991n276F4 2F992n2A6DF 2F993n276E2 2F994n276E1",
  "2F995n276D8 2F996n276B0 2F997n8E5B 2F998n276B3 2F999n2767C 2F99An27637 2F99Bn275EE 2F99Cn27679 2F99Dn275E0 2F99En275B7 2F99Fn27548 2F9A0n2764D 2F9A1n275D7 2F9A2n275D6 2F9A3n275C7",
  "2F9A4n8D6E 2F9A5n8C3A 2F9A6n8CD1 2F9A7n2B47C 2F9A8n274B7 2F9A9n274B6 2F9AAn27494 2F9ABn85E1 2F9ACn27448 2F9ADn8A81 2F9AEn2B451 2F9AFn2B44E 2F9B0n89FF 2F9B1n88DF 2F9B2n2B447",
  "2F9B3n27363 2F9B4n27358 2F9B5n2734E 2F9B6n2734D 2F9B7n2730E 2F9B8n27330 2F9B9n272AB 2F9BAn272D8 2F9BBn27242 2F9BCn27294 2F9BDn27252 2F9BEn27238 2F9BFn2B3E8 2F9C0n271DF 2F9C1n271C0",
  "2F9C2n2B3C9 2F9C3n27163 2F9C4n27161 2F9C5n835E 2F9C6n270EF 2F9C7n270E9 2F9C8n2B393 2F9C9n270CF 2F9CAn2C50F 2F9CBn811D 2F9CCn8066 2F9CDn2B30F 2F9CEn2B307 2F9CFn26F2F 2F9D0n26EE3",
  "2F9D1n26E47 2F9D2n26D7D 2F9D3n7D2B 2F9D4n26D29 2F9D5n26D14 2F9D6n26CBB 2F9D7n26C60 2F9D8n7AA9 2F9D9nF1D5 2F9DAn26C0F 2F9DBn26C1F 2F9DCn26BEC 2F9DDnF0FF 2F9DEn26B0A 2F9DFn26AA7",
  "2F9E0n740E 2F9E1n73F4 2F9E2n2694E 2F9E3n268F2 2F9E4n268D3 2F9E5n72B7 2F9E6n268CB 2F9E7n267AF 2F9E8n26711 2F9EAn2676E 2F9EBn265F2 2F9ECn265D7 2F9EDn6DF3 2F9EEn26463 2F9EFn2B05A",
  "2F9F0n26439 2F9F1n6C7A 2F9F2n2B00C 2F9F3n26330 2F9F4n29C42 2F9F5n262D2 2F9F6n68B1 2F9F7n67DD 2F9F8n2AF8A 2F9F9n2AF83 2F9FAn2621A 2F9FBn65F1 2F9FCn2AF4A 2F9FDn6567 2F9FEm980B",
  "2FA00n261D7 2FA01n644B 2FA02n26120 2FA03n2AED0 2FA04n260DB 2FA05n2605E 2FA06n26044 2FA07n26009 2FA08n2AE3A 2FA09n5ED9 2FA0An25EF8 2FA0Bn25DCB 2FA0Cn25D0F 2FA0Dn2AD3F 2FA0En2AD21",
  "2FA0Fn25CA8 2FA10n5942 2FA11n2AD19 2FA12n590D 2FA13n5805 2FA14n5783 2FA15n25B5A 2FA16n2ACC0 2FA17n25B1E 2FA18n25B1A 2FA19n25B14 2FA1An25B0B 2FA1Bn25B05 2FA1Cn25AE1 2FA1Dn541D",
  "2FA1Ex 30000v 3134Bx 31350v 3347Ax 3D000v 3FC40x E0100i E01F0x"]

/-- The mapping table, read. -/
def domainMapping : Runs DomainStatus :=
  Runs.ofLines DomainStatus.ofTag? domainMappingTable

/-- The status of a code point; the table covers every code point. -/
def domainStatus (c : Char) : DomainStatus :=
  (domainMapping.get? c.toNat).getD .disallowed

/-- What a code point becomes in a domain name, or `none` when it is disallowed. -/
def mapDomainChar (c : Char) : Option (List Char) :=
  match domainStatus c with
  | .valid => some [c]
  | .ignored => some []
  | .disallowed => none
  | .shifted d => some [Char.ofNat (c.toNat + d).toNat]
  | .mapped cs => some cs

/-- Whether a code point may stand in a domain name as it is. -/
def isDomainValid (c : Char) : Bool :=
  domainStatus c == .valid

end BrokerClient.Text
