import OpenApi.Url.Domain.Compose
/-! Joiners without width, which change how their neighbours are drawn. They stand only where they do
so. -/
namespace OpenApi.Url.Domain

inductive Joining where
  | none
  | left
  | right
  | dual
  | transparent
  deriving DecidableEq, Repr

def joiningWords : List String :=
  ["300-36f:t 483-489:t 591-5bd:t 5bf:t 5c1-5c2:t 5c4-5c5:t 5c7:t 610-61a:t 620:d 622-625:r",
   "626:d 627:r 628:d 629:r 62a-62e:d 62f-632:r 633-63f:d 641-647:d 648:r 649-64a:d 64b-65f:t",
   "66e-66f:d 670:t 671-673:r 679-687:d 688-699:r 69a-6bf:d 6c0:r 6c1-6c2:d 6c3-6cb:r 6cc:d",
   "6cd:r 6ce:d 6cf:r 6d0-6d1:d 6d2-6d3:r 6d5:r 6d6-6dc:t 6df-6e4:t 6e7-6e8:t 6ea-6ed:t",
   "6ee-6ef:r 6fa-6fc:d 6ff:d 710:r 711:t 712-714:d 715-719:r 71a-71d:d 71e:r 71f-727:d 728:r",
   "729:d 72a:r 72b:d 72c:r 72d-72e:d 72f:r 730-74a:t 74d:r 74e-758:d 759-75b:r 75c-76a:d",
   "76b-76c:r 76d-770:d 771:r 772:d 773-774:r 775-777:d 778-779:r 77a-77f:d 7a6-7b0:t 7ca-7ea:d",
   "7eb-7f3:t 7fd:t 816-819:t 81b-823:t 825-827:t 829-82d:t 840:r 841-845:d 846-847:r 848:d",
   "849:r 84a-853:d 854:r 855:d 856-858:r 859-85b:t 860:d 862-865:d 867:r 868:d 869-882:r 886:d",
   "889-88d:d 88e:r 88f:d 897-89f:t 8a0-8a9:d 8aa-8ac:r 8ae:r 8af-8b0:d 8b1-8b2:r 8b3-8b8:d",
   "8b9:r 8ba-8c8:d 8ca-902:t 93a:t 93c:t 941-948:t 94d:t 951-957:t 962-963:t 981:t 9bc:t",
   "9c1-9c4:t 9cd:t 9e2-9e3:t 9fe-a02:t a3c:t a41-a51:t a70-a71:t a75:t a81-a82:t abc:t",
   "ac1-ac8:t acd:t ae2-ae3:t afa-b01:t b3c:t b3f:t b41-b44:t b4d-b56:t b62-b63:t b82:t bc0:t",
   "bcd:t c00:t c04:t c3c:t c3e-c40:t c46-c56:t c62-c63:t c81:t cbc:t cbf:t cc6:t ccc-ccd:t",
   "ce2-ce3:t d00-d01:t d3b-d3c:t d41-d44:t d4d:t d62-d63:t d81:t dca:t dd2-dd6:t e31:t",
   "e34-e3a:t e47-e4e:t eb1:t eb4-ebc:t ec8-ece:t f18-f19:t f35:t f37:t f39:t f71-f7e:t",
   "f80-f84:t f86-f87:t f8d-fbc:t fc6:t 102d-1030:t 1032-1037:t 1039-103a:t 103d-103e:t",
   "1058-1059:t 105e-1060:t 1071-1074:t 1082:t 1085-1086:t 108d:t 109d:t 135d-135f:t 1712-1714:t",
   "1732-1733:t 1752-1753:t 1772-1773:t 17b7-17bd:t 17c6:t 17c9-17d3:t 17dd:t 1807:d 1820-1878:d",
   "1885-1886:t 1887-18a8:d 18a9:t 18aa:d 1920-1922:t 1927-1928:t 1932:t 1939-193b:t 1a17-1a18:t",
   "1a1b:t 1a56:t 1a58-1a60:t 1a62:t 1a65-1a6c:t 1a73-1a7f:t 1ab0-1b03:t 1b34:t 1b36-1b3a:t",
   "1b3c:t 1b42:t 1b6b-1b73:t 1b80-1b81:t 1ba2-1ba5:t 1ba8-1ba9:t 1bab-1bad:t 1be6:t 1be8-1be9:t",
   "1bed:t 1bef-1bf1:t 1c2c-1c33:t 1c36-1c37:t 1cd0-1cd2:t 1cd4-1ce0:t 1ce2-1ce8:t 1ced:t 1cf4:t",
   "1cf8-1cf9:t 1dc0-1dff:t 20d0-20f0:t 2cef-2cf1:t 2d7f:t 2de0-2dff:t 302a-302d:t 3099-309a:t",
   "a66f-a672:t a674-a67d:t a69e-a69f:t a6f0-a6f1:t a802:t a806:t a80b:t a825-a826:t a82c:t",
   "a840-a871:d a872:l a8c4-a8c5:t a8e0-a8f1:t a8ff:t a926-a92d:t a947-a951:t a980-a982:t a9b3:t",
   "a9b6-a9b9:t a9bc-a9bd:t a9e5:t aa29-aa2e:t aa31-aa32:t aa35-aa36:t aa43:t aa4c:t aa7c:t",
   "aab0:t aab2-aab4:t aab7-aab8:t aabe-aabf:t aac1:t aaec-aaed:t aaf6:t abe5:t abe8:t abed:t",
   "fb1e:t fe20-fe2f:t 101fd:t 102e0:t 10376-1037a:t 10a01-10a0f:t 10a38-10a3f:t 10ac0-10ac4:d",
   "10ac5:r 10ac7:r 10ac9-10aca:r 10acd:l 10ace-10ad2:r 10ad3-10ad6:d 10ad7:l 10ad8-10adc:d",
   "10add:r 10ade-10ae0:d 10ae1:r 10ae4:r 10ae5-10ae6:t 10aeb-10aee:d 10aef:r 10b80:d 10b81:r",
   "10b82:d 10b83-10b85:r 10b86-10b88:d 10b89:r 10b8a-10b8b:d 10b8c:r 10b8d:d 10b8e-10b8f:r",
   "10b90:d 10b91:r 10ba9-10bac:r 10bad-10bae:d 10d00:l 10d01-10d21:d 10d22:r 10d23:d",
   "10d24-10d27:t 10d69-10d6d:t 10eab-10eac:t 10ec2:r 10ec3-10ec4:d 10ec6-10ec7:d 10efa-10eff:t",
   "10f30-10f32:d 10f33:r 10f34-10f44:d 10f46-10f50:t 10f51-10f53:d 10f54:r 10f70-10f73:d",
   "10f74-10f75:r 10f76-10f81:d 10f82-10f85:t 10fb0:d 10fb2-10fb3:d 10fb4-10fb6:r 10fb8:d",
   "10fb9-10fba:r 10fbb-10fbc:d 10fbd:r 10fbe-10fbf:d 10fc1:d 10fc2-10fc3:r 10fc4:d 10fc9:r",
   "10fca:d 10fcb:l 11001:t 11038-11046:t 11070:t 11073-11074:t 1107f-11081:t 110b3-110b6:t",
   "110b9-110ba:t 110c2:t 11100-11102:t 11127-1112b:t 1112d-11134:t 11173:t 11180-11181:t",
   "111b6-111be:t 111c9-111cc:t 111cf:t 1122f-11231:t 11234:t 11236-11237:t 1123e:t 11241:t",
   "112df:t 112e3-112ea:t 11300-11301:t 1133b-1133c:t 11340:t 11366-11374:t 113bb-113c0:t",
   "113ce:t 113d0:t 113d2:t 113e1-113e2:t 11438-1143f:t 11442-11444:t 11446:t 1145e:t",
   "114b3-114b8:t 114ba:t 114bf-114c0:t 114c2-114c3:t 115b2-115b5:t 115bc-115bd:t 115bf-115c0:t",
   "115dc-115dd:t 11633-1163a:t 1163d:t 1163f-11640:t 116ab:t 116ad:t 116b0-116b5:t 116b7:t",
   "1171d:t 1171f:t 11722-11725:t 11727-1172b:t 1182f-11837:t 11839-1183a:t 1193b-1193c:t",
   "1193e:t 11943:t 119d4-119db:t 119e0:t 11a01-11a0a:t 11a33-11a38:t 11a3b-11a3e:t 11a47:t",
   "11a51-11a56:t 11a59-11a5b:t 11a8a-11a96:t 11a98-11a99:t 11b60:t 11b62-11b64:t 11b66:t",
   "11c30-11c3d:t 11c3f:t 11c92-11ca7:t 11caa-11cb0:t 11cb2-11cb3:t 11cb5-11cb6:t 11d31-11d45:t",
   "11d47:t 11d90-11d91:t 11d95:t 11d97:t 11ef3-11ef4:t 11f00-11f01:t 11f36-11f3a:t 11f40:t",
   "11f42:t 11f5a:t 13440:t 13447-13455:t 1611e-16129:t 1612d-1612f:t 16af0-16af4:t",
   "16b30-16b36:t 16f4f:t 16f8f-16f92:t 16fe4:t 1bc9d-1bc9e:t 1cf00-1cf46:t 1d167-1d169:t",
   "1d17b-1d182:t 1d185-1d18b:t 1d1aa-1d1ad:t 1d242-1d244:t 1da00-1da36:t 1da3b-1da6c:t 1da75:t",
   "1da84:t 1da9b-1daaf:t 1e000-1e08f:t 1e130-1e136:t 1e2ae:t 1e2ec-1e2ef:t 1e4ec-1e4ef:t",
   "1e5ee-1e5ef:t 1e6e3:t 1e6e6:t 1e6ee-1e6ef:t 1e6f5:t 1e8d0-1e8d6:t 1e922-1e943:d",
   "1e944-1e94b:t"]

def joinings : List Span := Span.ofLines joiningWords

namespace Joining

def ofNote : List Char → Joining
  | ['l'] => .left
  | ['r'] => .right
  | ['d'] => .dual
  | ['t'] => .transparent
  | _ => .none

def of (c : Char) : Joining :=
  if c.toNat < 0x300 then .none else ((Span.note? joinings c).map ofNote).getD .none

def joins (side : Joining) : List Char → Bool
  | [] => false
  | c :: rest => of c = side || of c = .dual || (of c = .transparent && joins side rest)

/-- Both joiners may follow a virama. The one that keeps letters apart may also stand between two that
would join. `before` is what precedes, last character first. -/
def fits (before : List Char) : List Char → Bool
  | [] => true
  | c :: rest =>
    (if c = '\u200c' then
        before.head?.any isVirama || (joins .left before && joins .right rest)
      else if c = '\u200d' then before.head?.any isVirama
      else true) && fits (c :: before) rest

end Joining
end OpenApi.Url.Domain
