import SourceAtlas.Python.Automaton.Templates

/-! States 1600 to 2399 of the automaton, one number for each. -/
namespace SourceAtlas.Python.Automaton

def rows1600 : Array Nat := #[
  0x1904bb000c0122f8b95e40212490b5027cc20ac1, 0x1904bb000c018160b9815c218158b50218c20ac1,
  0x190cbb000c012300b95eb02124e0b5027cc40ac1, 0x190cbb000c01816cb98168218164b50218c40ac1,
  0x1914bb000c012310b95f80212580b5027d2e0afa, 0x1914bb000c018178b98174218170b502192e0afa,
  0x1928bb000c0122e0b95c582123a0b5027cc80ad1, 0xc01006487001c9c06db, 0xc01006487001c9c06db,
  0xc0102808700989c06db, 0x1928bb000c018184b9818021817cb50218c80ad1, 0x19392f000c010ef83a002c770694,
  0x1934bb000c0122f0b95db0212440b5027ccc0af1, 0x1934bb000c018190b9818c218188b50218cc0af1,
  0x19392f000c0181943a0284770694, 0xc01002887001c9c06db, 0xc01002887001c9c06db,
  0xc0100c88700989c06db,
  0x14c4ba000c012418b82410b72408b624003f14e81d23f83e23e8b423e0b31018065ad0b216eb,
  0xc01002089001c9c06eb, 0xc01002089001c9c06eb, 0xc01006444001c9c06eb, 0xc01006444001c9c06eb,
  0xc0102804400989c06eb, 0xc01002061001c9c06db, 0xc01002061001c9c06db, 0xc01009c8900bc9c06eb,
  0xc01009c8900989c06eb, 0xc0100c48900c09c06eb, 0xc0100d08900cc9c06eb, 0xc01002844001c9c06eb,
  0xc01002844001c9c06eb, 0xc01002064001c9c06fb, 0xc01002064001c9c06fb, 0xc01009c660494,
  0xc010288660494, 0xc01028c660494, 0xc010284660494, 0xc01009c6100bc9c06db, 0xc01009c6100989c06db,
  0xc0100c46100c09c06db, 0xc0100d06100cc9c06db, 0xc0100c84400989c06eb, 0xc01009c6400bc9c06fb,
  0xc01009c6400989c06fb, 0xc0100c46400c09c06fb, 0xc0100d06400cc9c06fb,
  0x14c4ba000c012418b82410b72408b624003f16201d23f83e23e8b423e0b31018065da8b216eb,
  0x14c4ba000c012418b82410b72408b624003f16181d23f83e23e8b423e0b31018065d10b216eb,
  0x14c4ba000c012418b82410b72408b624003f16101d23f83e23e8b423e0b31018065c50b216eb,
  0x14c4ba000c012418b82410b72408b624003f16501d23f83e23e8b423e0b31018065fb8b216eb,
  0x14c4ba000c012418b82410b72408b624003f16381d23f83e23e8b423e0b31018065f10b216eb,
  0x14c4ba000c012418b82410b72408b624003f16401d23f83e23e8b423e0b31018065f78b216eb,
  0x14c4ba000c012418b82410b72408b624003f16481d23f83e23e8b423e0b31018065fb0b216eb,
  0x14c4ba000c012418b82410b72408b624003f16281d23f83e23e8b423e0b31018065e38b216eb,
  0x14c4ba000c012418b82410b72408b624003f16301d23f83e23e8b423e0b31018065ea8b216eb,
  0x27a53627a13523a134239d33296532296131000c0157393023303e17488522c8071e88064f30030ee5,
  0x19ed2f000c010e11370e08580f60850f583a0ae4, 0xc01009d3804e4, 0x1a012f000c01002c3d0f983a06e4,
  0xc0102893804e4, 0xc01028d3804e4, 0xc0102853804e4, 0xc010e11370e08580f60850290820a94,
  0x1a012f000c0102843d81983a06e4,
  0x27a53627a13523a134239d3329653229f131000c0157393023303e15708522c8071e88064f30030ee5,
  0x27a53627a13523a134239d332965322a2531000c0157393023303e18308522c8071e88064f30030ee5,
  0x192d2f000c010e11370e08580f60850ef03a0ae4,
  0x27a53627a13523a134239d332965322a8531000c0157393023303e18988522c8071e88064f30030ee5,
  0x27a53627a13523a134239d332965322ad131000c0157393023303e18d88522c8071e88064f30030ee5,
  0x27a53627a13523a134239d332965322b1931000c0157393023303e19108522c8071e88064f30030ee5,
  0x27a53627a13523a134239d332965322b5131000c0157393023303e19488522c8071e88064f30030ee5,
  0x27a53627a13523a134239d332965322b8531000c0157393023303e19808522c8071e88064f30030ee5,
  0x27a53627a13523a134239d332965322bb931000c0157393023303e19b88522c8071e88064f30030ee5,
  0x27a53627a13523a134239d332965322c0931000c0157393023303e15d08522c8071e88064f30030ee5,
  0x27a53627a13523a134239d332965322c1531000c0157393023303e15f88522c8071e88064f30030ee5,
  0x24a536286d3524a134249d3329c132000c0158d13025d83e22d00757d86a1eb0064c18030ed3,
  0xc010e11370e08580f608508e4,
  0x27a53627a13523a13427f933000c0157393023303e02948522c8071e88064f30030ee5,
  0x27a53627a13523a13427f933000c0157393023303e02988522c8071e88064f30030ee5,
  0x24a536286d3524a134289533000c0158d13025d83e22d00702946a1eb0064c18030ed3,
  0x24a536286d3524a134289533000c0158d13025d83e22d00702986a1eb0064c18030ed3,
  0x27a53627a13523a13427f933000c0157393023303e22c8071e88064f30030ce3,
  0x24a536286d3524a134289533000c0158d13025d83e22d0071eb0064c18030ce3, 0xc0102092b049a,
  0x25293e1d8d3d29a13c000c0119313b19293a029c712278136070121798851ac01019213912a83a14c1,
  0xc0102a12b049a, 0xc0117793b17713a17681017613902a53f0c9a, 0xc0117793b17713a819d3902a9400a9a,
  0xc0117793b17713a02ad41089a, 0xc0102b12b049a, 0xc0117713a02b142069a,
  0xc0117793b17713a17681017613902b53f0c9a, 0xc0117793b17713a17681017613902b93f0c9a,
  0x25293e1d8d3d2a453c000c0119313b19293a029c712278136070121798851ac01019213912a83a14c1,
  0x25293e1d8d3d2aa13c000c0119313b19293a029c712278136070121798851ac01019213912a83a14c1,
  0x25293e1d8d3d2aed3c000c0119313b19293a029c712278136070121798851ac01019213912a83a14c1,
  0x25293e1d8d3d2b313c000c0119313b19293a029c712278136070121798851ac01019213912a83a14c1,
  0x25293e1d8d3d2b653c000c0119313b19293a029c712278136070121798851ac01019213912a83a14c1,
  0x25293e1d8d3d2b993c000c0119313b19293a029c712278136070121798851ac01019213912a83a14c1,
  0x25293e1d8d3d2bcd3c000c0119313b19293a029c712278136070121798851ac01019213912a83a14c1,
  0x23b13e1d313d29853c000c0118593b18513a1ed8135b00121aa81018493912303a29086a12d1,
  0x24b53e1d6d3d299d3c000c0118f93b18f13a029c6f2268136060121ab81018e93912683a12f1,
  0x23b13e1d313d2a953c000c0118593b18513a1ed8135b00121aa81018493981a03a31906a12d1,
  0x2425431d313d29853c000c0118593b18513a1ed8135b00121aa81018493910983a29786a12d1,
  0x218d44000c0117793b17713a17681017613914e03a02c4a102c082109a,
  0x23b13e1d313d2a393c000c0118593b18513a1ed8135b00121aa81018493912303a30b06a12d1,
  0x25ad431d313d2a393c000c0118593b18513a1ed8135b00121aa81018493910d03a31286a12d1,
  0x23b13e1d313d2a953c000c0118593b18513a1ed8135b00121aa81018493912303a31906a12d1,
  0x2605431d313d2a953c000c0118593b18513a1ed8135b00121aa81018493911083a31e86a12d1,
  0x23b13e1d313d2ae13c000c0118593b18513a1ed8135b00121aa81018493912303a32706a12d1,
  0x2651431d313d2ae13c000c0118593b18513a1ed8135b00121aa81018493911403a32e86a12d1,
  0x23b13e1d313d2b293c000c0118593b18513a1ed8135b00121aa81018493912303a2dd86a12d1,
  0x269d431d313d2b293c000c0118593b18513a1ed8135b00121aa81018493911783a2e306a12d1,
  0x23b13e1d313d2b5d3c000c0118593b18513a1ed8135b00121aa81018493912303a2eb06a12d1,
  0x26cd431d313d2b5d3c000c0118593b18513a1ed8135b00121aa81018493911b03a2f086a12d1,
  0x23b13e1d313d2b913c000c0118593b18513a1ed8135b00121aa81018493912303a34306a12d1,
  0x26fd431d313d2b913c000c0118593b18513a1ed8135b00121aa81018493911e03a34886a12d1,
  0x23b13e1d313d2bc53c000c0118593b18513a1ed8135b00121aa81018493912303a35f86a12d1,
  0x272d431d313d2bc53c000c0118593b18513a1ed8135b00121aa81018493912103a36506a12d1,
  0x24b53e1d6d3d2a413c000c0118f93b18f13a029c6f2268136060121ab81018e93912683a12f1,
  0x24b53e1d6d3d2a9d3c000c0118f93b18f13a029c6f2268136060121ab81018e93912683a12f1,
  0x24b53e1d6d3d2ae93c000c0118f93b18f13a029c6f2268136060121ab81018e93912683a12f1,
  0x24b53e1d6d3d2b2d3c000c0118f93b18f13a029c6f2268136060121ab81018e93912683a12f1,
  0x24b53e1d6d3d2b613c000c0118f93b18f13a029c6f2268136060121ab81018e93912683a12f1,
  0x24b53e1d6d3d2b953c000c0118f93b18f13a029c6f2268136060121ab81018e93912683a12f1,
  0x24b53e1d6d3d2bc93c000c0118f93b18f13a029c6f2268136060121ab81018e93912683a12f1,
  0x1d1d481b0147274146000c014239450f00200900, 0x1d1d481b0947276146000c014239450f00200900,
  0x1eb544000c0119693b19613a02c8a91ac81019593912703a0ec1,
  0x1d1d481b094702cd46000c0181a94581a4200900, 0xc0117793b17713a17681017613902c5180c9a,
  0xc0102092c04ea, 0xc0102a12c04ea, 0xc0118b93b18b13a1ab01018a93902a5490cea,
  0xc0118b93b18b13a81ad3902a94a0aea, 0xc0118b93b18b13a02ad4b08ea, 0xc0102b12c04ea,
  0xc0118b13a02b14c06ea, 0xc0118b93b18b13a1ab01018a93902b5490cea,
  0xc0118b93b18b13a1ab01018a93902b9490cea, 0xc0119a13b19993a1ad01019913902c51a0cda,
  0x1eb544000c0119693b19613a02d0a91ac81019593912703a0ec1, 0xc0102092d04da, 0xc0102a12d04da,
  0xc0119a13b19993a1ad01019913902a51a0cda, 0xc0119a13b19993a81b13902a94d0ada,
  0xc0119a13b19993a02ad4e08da, 0xc0102b12d04da, 0xc0119993a02b14f06da,
  0xc0119a13b19993a1ad01019913902b51a0cda, 0xc0119a13b19993a1ad01019913902b91a0cda,
  0x1d1d481b65472c8146000c014239450f00200900, 0x1d1d481b09472cb146000c014239450f00200900,
  0x1d1d481b6d472d1146000c014239450f00200900, 0x1d1d481b09472d2946000c014239450f00200900,
  0x1d1d481b7547529946000c014239450f00200900, 0x1d1d481b094752a146000c014239450f00200900,
  0x1d1d481b7d472d7146000c014239450f00200900, 0x1d1d481b09472dd146000c014239450f00200900,
  0x1d1d481b85472b9146000c014239450f00200900, 0x1d1d481b09472b9946000c014239450f00200900,
  0x1d1d481b8d472ba146000c014239450f00200900, 0x1d1d481b09472bb946000c014239450f00200900,
  0x1d1d481b95472f8946000c014239450f00200900, 0x1d1d481b09472fb146000c014239450f00200900,
  0x1d1d481b9d4734f946000c014239450f00200900, 0x1d1d481b0947351946000c014239450f00200900,
  0x1fb944000c0117793b17713a17681017613913a03a17880502d4821091,
  0xc0118b93b18b13a1ab01018a93902c51c0cea, 0x1bb151000c0139605802d9505c60b208ea,
  0x1bb151000c015c60b202d95206ea, 0x1bb951000c015c60b202dd5206ea,
  0xc0119693b19613a1ac81019593902e07b0cc1, 0x1bb951000c0181b4b202e55206ea,
  0xc0119d93b19d13a1ad81019c93902c51d0cfa, 0xc0119693b19613a1ac81019593902e87b0cc1, 0xc010208c204c1,
  0xc0102a0c204c1, 0xc0119313b19293a1ac01019213902a5530cc1, 0xc0119313b19293a81b93902a9540ac1,
  0xc0119313b19293a02ad5508c1, 0xc0102b0c204c1, 0xc0119293a02b15606c1,
  0xc0119313b19293a1ac01019213902b5530cc1, 0xc0119313b19293a1ac01019213902b9530cc1, 0xc010208c404c1,
  0xc0102a0c404c1, 0xc0119693b19613a1ac81019593902a47b0cc1, 0xc0119693b19613a81bd3902a9570ac1,
  0xc0119693b19613a02ad5808c1, 0xc0102b0c404c1, 0xc0119613a02b15906c1,
  0xc0119693b19613a1ac81019593902b47b0cc1, 0xc0119693b19613a1ac81019593902b87b0cc1, 0xc0102092e04fa,
  0xc0102a12e04fa, 0xc0119d93b19d13a1ad81019c93902a51d0cfa, 0xc0119d93b19d13a81c13902a95a0afa,
  0xc0119d93b19d13a02ad5b08fa]

def rows1800 : Array Nat := #[
  0xc0102b12e04fa, 0xc0119d13a02b15c06fa, 0xc0119d93b19d13a1ad81019c93902b51d0cfa,
  0xc0119d93b19d13a1ad81019c93902b91d0cfa, 0x218d44000c0117793b17713a17681017613914e03a02c0820e91,
  0x1df02c0b655d000c0117181e5a481c5a30175ae0120ae1,
  0x21a15e000c0117793b17713a17681017613914f83a02ec820e91,
  0x21a544000c0117793b17713a17681017613917803a02f0820e91,
  0x1fb944000c0117793b17713a17681017613913a03a02f4820e91,
  0x1fb944000c0117793b17713a17681017613913a03a02f8820e91,
  0x1fb944000c0117793b17713a17681017613913a03a02d0820e91,
  0xb809107e49307e090000c015b708e17b89216a08d091d,
  0x1fb944000c0117793b17713a17681017613913a03a0290820e91, 0xc0117793b17713a17681017613902e15f0c91,
  0x242d60000c0119d93b19d13a1bd06f13c0851ad81019c93913b83a10f1,
  0xba891080493080090000c015b708e17b89216a08d091d,
  0x21e144000c0117793b17713a17681017613917803a02fc820e91, 0xc0119313b19293a1ac0101921390301610cc1,
  0xc0118593b18513a1849390305620ad1, 0xfccb03ed026000c010309630621,
  0xc0118593b18513a1849390305620ad1, 0xc0118593b18513a1849390305620ad1, 0xc010208c804d1,
  0xc0102a0c804d1, 0xc0118593b18513a1aa81018493902a5640cd1, 0xc0118593b18513a81c53902a9620ad1,
  0xc0118593b18513a02ad6508d1, 0xc0102b0c804d1, 0xc0118513a02b16606d1, 0xc0102e56704ea,
  0xc0118593b18513a1aa81018493902b5640cd1, 0xc0118593b18513a1aa81018493902b9640cd1,
  0xc0118f93b18f13a18e9390305680af1, 0x1d8951000c0139705802d9695d20b208d7,
  0xc0118f93b18f13a18e9390305680af1, 0xc0118f93b18f13a18e9390305680af1,
  0xc0119313b19293a19213903056a0ac1, 0x1da951000c0139805802d96b5db8b208f7,
  0xc0119313b19293a19213903056a0ac1, 0xc0119313b19293a19213903056a0ac1, 0xc010208cc04f1,
  0xc0102a0cc04f1, 0xc0118f93b18f13a1ab81018e93902a56c0cf1, 0xc0118f93b18f13a81c93902a9680af1,
  0xc0118f93b18f13a02ad6d08f1, 0xc0102b0cc04f1, 0xc0118f13a02b16e06f1,
  0xc0118f93b18f13a1ab81018e93902b56c0cf1, 0xc0118f93b18f13a1ab81018e93902b96c0cf1,
  0x1db951000c0139905802d96f5e48b208c7, 0x1df02c0c515d000c0117181e60381c6040176058120ae1,
  0xc6891083c93083890000c015fe88e1af09216e08d091d,
  0x25b560000c0119d93b19d13a2cd86f13c0851ad81019c93913f03a10f1,
  0xc9091084893084490000c015fe88e1af09216e08d091d,
  0x260d60000c0119d93b19d13a2ad86f13c0851ad81019c93914083a10f1,
  0x265960000c0119d93b19d13a32f86f13c0851ad81019c93914203a10f1,
  0x26a560000c0119d93b19d13a33786f13c0851ad81019c93914383a10f1,
  0x26d560000c0119d93b19d13a28806f13c0851ad81019c93914503a10f1,
  0x270560000c0119d93b19d13a2f506f13c0851ad81019c93914683a10f1,
  0x273560000c0119d93b19d13a34c86f13c0851ad81019c93914803a10f1,
  0x274160000c0119d93b19d13a36906f13c0851ad81019c93914983a10f1,
  0x274d60000c0119d93b19d13a37006f13c0851ad81019c93914b03a10f1,
  0x217573293572237571000c015a61704ae8b23f580308e7, 0x1d2948000c01425145030d740700,
  0x23bd75000c0118b93b18b13a4f70851ab01018a93916803a0ee1,
  0x23d1761d8d3d29a53c000c0129207122781360701212f03a0ac1, 0x1d2948000c0181cd450311740700,
  0x1f952327d17921717827cd77000c015790074b900643d00308e1,
  0x1d397a000c011ed8135b001217b01003146a0ad1, 0xc0117793b17713a17681017613903197b0c91,
  0x1d517a000c011ed8135b001217b010031c6a0ad1, 0xc0117793b17713a17681017613903217b0c91,
  0x256544000c0118b93b18b13a0b08851ab01018a93916b83a0ee1,
  0x260543000c0119a13b19993a1ad01019913911083a31e86a0ed1,
  0xc0119d93b19d13a1550851ad81019c9390060640ef1, 0xc0118593b18513a18493903247d0ad1,
  0x1d517a000c0181d81381d41281d01003286a0ad1,
  0x256544000c0118b93b18b13a0b38851ab01018a93916b83a0ee1,
  0xc0119d93b19d13a13c0851ad81019c939032c640ef1, 0xc0119d93b19d13a1560851ad81019c9390088640ef1,
  0xc0158503f03096306e1, 0xc0158583f03316306e1,
  0x252d44000c0119a13b19993a1ad01019913915903a02d06a0ed1,
  0x1d717a000c0103146f2268136060121a18100af1, 0x1d797a000c01031c6f2268136060121a18100af1,
  0xc0118f93b18f13a03248018e9390af1, 0x1d797a000c0103286f81e41381e01281dc100af1,
  0x1064b03f2026000c0103097c0671, 0x1d8951000c0102d9695d20b206d7,
  0x255544000c0119d93b19d13a02d06f1ad81019c93915b03a0ef1, 0x1d9151000c0102dd695d20b206d7,
  0x1d957a000c010314712278136070121a48100ac1, 0x1d9151000c0102e56981e8b206d7,
  0x1d9d7a000c01031c712278136070121a48100ac1, 0xc0119313b19293a0324811921390ac1,
  0x1d9d7a000c0103287181f41381f01281ec100ac1, 0x1218b03f3026000c0103097d0681,
  0x1da951000c0102d96b5db8b206f7, 0x1dad51000c0102dd6b5db8b206f7, 0x1dad51000c0102e56b81f8b206f7,
  0xf94b03f1026000c0103097e0661, 0x1db951000c0102d96f5e48b206c7, 0x1dbd51000c0102dd6f5e48b206c7,
  0x1dbd51000c0102e56f81fcb206c7, 0x2591761d8d3d2a493c000c0130d07122781360701213183a0ac1,
  0x25f5761d8d3d2aa53c000c0131a87122781360701213303a0ac1,
  0x2641761d8d3d2af13c000c0132a07122781360701213483a0ac1,
  0x268d761d8d3d2b353c000c012df07122781360701213583a0ac1,
  0x26bd761d8d3d2b693c000c012ec87122781360701213683a0ac1,
  0x26ed761d8d3d2b9d3c000c0134487122781360701213783a0ac1,
  0x271d761d8d3d2bd13c000c0136107122781360701213883a0ac1,
  0x258d75000c0118b93b18b13a5310851ab01018a93916d83a0ee1,
  0x256544000c0118b93b18b13a0be0851ab01018a93916b83a0ee1,
  0x256544000c0118b93b18b13a0c10851ab01018a93916b83a0ee1, 0x1df551000c015ae8b202d97f0697,
  0xc0118b93b18b13a1ab01018a93902bc440ce1, 0x1df02c000c0182001e03358006e1,
  0x1e1151000c015ae8b202dd7f0697, 0xc0119a13b19993a1ad0101991390338610cd1,
  0xc0117793b17713a176810176139033c820c91, 0xc0119693b19613a1ac8101959390341810cc1,
  0xc0117793b17713a17681017613902e8820c91, 0xc010fd0b60e18580fc8855c78b20344820c9a, 0xc010349820500,
  0x1e1151000c018204b202e57f0697, 0xc0119a13b19993a1ad010199139034c610cd1,
  0xc0117793b17713a1768101761390350820c91, 0xc0118b93b18b13a1ab01018a9390354440ce1,
  0x244d83000c010ff0b644706f0fe8850f083a5d30b20cfa, 0xc0118b93b18b13a1ab01018a9390358440ce1,
  0xc01035d820500, 0xc01035d820500, 0xc01035d820500, 0xc0118b93b18b13a0b48851ab01018213918183a0ee1,
  0xc0103618404ea, 0xc0119a13b19993a1ad0101991390364610cd1, 0xc0119a13b19993a1ad0101991390368610cd1,
  0xc0119a13b19993a1ad010199139036c610cd1, 0xc0119d93b19d13a1ad81019c9390088640cf1, 0xc010371820500,
  0xc010371820500, 0xc010371820500, 0x1e7d85000c0112483a03747d06d1, 0xc0103096337800606e1,
  0x201d8629f927000c010b60851a70105be93937603a0ae1, 0x1e8188000c013968b603798706e1, 0xc01037d8404ea,
  0xc0118b93b18b13a1ab01018a9390380440ce1, 0xc0119d93b19d13a1ad81019c939008c640cf1, 0xc010385820500,
  0x1e9185000c0112503a00407d06d1, 0x1e9585000c0112583a00407d06d1, 0x1ea188000c013968b603898706e1,
  0xc0118b93b18b13a02ad8708e1, 0xc01038d8404ea, 0xc0119d93b19d13a1ad81019c9390390640cf1,
  0x1e9585000c0112603a00447d06d1, 0x1e9585000c0182083a03947d06d1, 0x1e8188000c013968b603998706e1,
  0x1e8188000c01039d6304e1, 0x1ea188000c01820cb6039d8706e1, 0xc0119a13b19993a1ad01019913902bc610cd1,
  0xc0102c518049a, 0x1f512f000c01002ca91d183a06c1, 0xc0119d93b19d13a1ad81019c9390338640cf1,
  0x1ec944000c01004ca912803a06c1, 0xc0100e918049a, 0xc0103a118049a,
  0xc0119a13b19993a1ad0101991390340610cd1, 0xc0119a13b19993a1ad01019913902e8610cd1,
  0x1ec944000c0102e0a982103a06c1, 0xc0119d93b19d13a1ad81019c939034c640cf1, 0xc0103a518049a,
  0xc010fd0b60fc8855c78b203a9890a9a, 0xc0103ad18049a, 0xc0119693b19613a1ac8101959390301810cc1,
  0xc011008b61a205810008503b0615dc8b20cda, 0xc0119a13b19993a1ad0101991390358610cd1, 0xc01036118049a,
  0x1f0185000c0103748012883a06f1, 0xc0159a83f03097c06d1, 0xc01037d18049a,
  0xc0119a13b19993a1ad0101991390380610cd1, 0x1f0d85000c0100408012903a06f1,
  0x1f1185000c0100408012983a06f1, 0xc0159b03f03317c06d1, 0xc01038d18049a,
  0x1f1185000c0100448012a03a06f1, 0x1f1185000c0103948082143a06f1,
  0xc0119693b19613a1ac8101959390339810cc1, 0xc0119d93b19d13a1ad81019c93902e8640cf1,
  0xc0119a13b19993a1ad01019913902e0610cd1, 0xc0102e58a04d7, 0xc0119693b19613a1ac810195939034d810cc1,
  0x1f3585000c0103748112b83a06c1, 0xc0159c83f03097d06f1, 0x1f3d85000c0100408112c03a06c1,
  0x1f4185000c0100408112c83a06c1, 0xc0159d03f03317d06f1, 0x1f4185000c0100448112d03a06c1]

def rows2000 : Array Nat := #[
  0x1f4185000c0103948182183a06c1, 0xc0102c51a04da, 0xc0100e91a04da, 0xc0103a11a04da,
  0x1f512f000c010284a9821c3a06c1, 0xc0119d93b19d13a1ad81019c93902e0640cf1, 0xc0102e58b04f7,
  0xc0103a51a04da, 0xc011008b610008503a98c5dc8b20ada, 0xc0103ad1a04da, 0xc0103611a04da,
  0xc0159e83f03097e06c1, 0xc01037d1a04da, 0xc0159f03f03317e06c1, 0xc01038d1a04da,
  0xc0118b93b18b13a1ab01018a93902e0440ce1, 0xc0102e58d04c7,
  0x25c183000c010ff0b645d06f0fe8850f183a5d30b20cfa,
  0x261583000c010ff0b649886f0fe8850f283a5d30b20cfa,
  0x266183000c010ff0b646d06f0fe8850f383a5d30b20cfa, 0xc0118b93b18b13a0c20851ab0101821391b003a0ee1,
  0x21958e000c015af13947603a03b4820891, 0xc0118b93b18b13a0ac0851ab01018a9390ce1,
  0xc0118b93b18b13a0ac8851ab01018a9390ce1, 0xc0102c51c04ea,
  0x29998f23cc96000c010f701d0ad8850f900608e1, 0x4b6847000c0117793b17713a1768101761390c91,
  0x29ad91000c014fd9904418714b70584798850ac1, 0x21bd2323f178000c0103b88243d0030691,
  0x1f952321717827c577000c014b880643d00306e1, 0x1fc944000c0113b03a004c840691, 0xc0100e91c04ea,
  0xc0103a11c04ea, 0xc0118b93b18b13a17d08c1ab01018a9390ce1, 0x1fc944000c0182203a02e0840691,
  0x1ff594243593000c0147e99203bc710f482008ce, 0xc0102e5950497, 0x21bd2323f178000c0103c08243d0030691,
  0x21bd2323f178000c0103c08243d0030691, 0xc0103a51c04ea, 0xc010f88b60f788503a9965b28b20aea,
  0xc010fd0b60fc8855c78b203c4820a9a, 0xc0103ad1c04ea, 0xc0118b93b18b13a1a08851ab01018a9390ce1,
  0xc010f88b61810580f788503b03a5b28b20cea, 0x1ffd94243593000c0147f99203c8710f482008ce,
  0xc0118b93b18b13a0b50851ab0101829390ce1, 0x1ffd94243593000c0182299203cc7182242008ce,
  0xc0118b93b18b13a0b58851ab01018a9390ce1, 0xc010ff0b60fe88503d0645d30b20afa, 0xc0103d56304e1,
  0xc0103d96304e1, 0xc0103dd6304e1, 0xc0103e16304e1, 0x248198000c0148787103099738c83a08c1,
  0x22018629fd27000c010b68851a701037683a08e1, 0xc0118b93b18b13a0b78851ab01018a9390ce1,
  0xc0118b93b18b13a02ad9908e1, 0xc0103e56204d1, 0xc0103956204d1, 0xc0103e96304e1, 0xc0103ed6304e1,
  0xc0103f16304e1, 0xc0103f16304e1, 0xc0103f56304e1, 0xc0103f96304e1, 0xc0103fd6204d1,
  0xc0104016304e1, 0xc0104056304e1, 0xc0104096304e1, 0xc01040d6304e1, 0xc01040d6304e1,
  0xc01040d6304e1, 0xc01040d6304e1, 0xc0104116304e1, 0xc0104156304e1, 0xc0104196304e1,
  0xc01041d6304e1, 0xc01041d6304e1, 0xc0104216304e1, 0xc0104256304e1,
  0xc011008b610008503b0615dc8b20ada, 0xc0103097c37c80606d1, 0x209188000c013978b603799a06d1,
  0x20a588000c013978b603899a06d1, 0xc0103e56804f1, 0xc0103956804f1, 0x209188000c013978b603999a06d1,
  0x209188000c01039d7c04d1, 0x20a588000c01822cb6039d9a06d1, 0xc0103fd6804f1, 0xc0102c51d04fa,
  0xc0100e91d04fa, 0xc0103a11d04fa, 0xc0103a51d04fa, 0xc010ff0b60fe88503a8645d30b20afa,
  0xc0103ad1d04fa, 0xc0103611d04fa, 0xc0103097d38100606f1, 0x20d588000c013988b603799b06f1,
  0xc01037d1d04fa, 0x20ed88000c013988b603899b06f1, 0xc01038d1d04fa, 0xc0103e56a04c1,
  0xc0103956a04c1, 0x20d588000c013988b603999b06f1, 0x20d588000c01039d7d04f1,
  0x20ed88000c018230b6039d9b06f1, 0xc0103fd6a04c1, 0xc01009c7b04c1, 0xc0102d07b04c1,
  0xc0102887b04c1, 0xc01028c7b04c1, 0xc0102847b04c1, 0xc0118b93b18b13a0324851ab01018a9390ce1,
  0xc0103097e38580606c1, 0x211988000c013998b603799c06c1, 0xc0103d99d04c1,
  0x212588000c013998b603899c06c1, 0x211988000c013998b603999c06c1, 0x211988000c01039d7e04c1,
  0x212588000c018234b6039d9c06c1, 0x2a5191000c0153499051a0714e70584798850ac1,
  0xc0118b93b18b13a18808c1ab01018a9390ce1, 0x25d598000c014c707103099738f03a08c1,
  0xc0118b93b18b13a18d08c1ab01018a9390ce1, 0x262998000c014d307103099739183a08c1,
  0xc0118b93b18b13a19088c1ab01018a9390ce1, 0x267598000c014de87103099739403a08c1,
  0xc0118b93b18b13a19408c1ab01018a9390ce1, 0xc0118b93b18b13a19788c1ab01018a9390ce1,
  0xc0118b93b18b13a19b08c1ab01018a9390ce1, 0xc0118b93b18b13a19e88c1ab01018a9390ce1,
  0xc0118b93b18b13a0b98851ab01018a9390ce1, 0xc0118b93b18b13a0ba0851ab01018a9390ce1,
  0x2be98f275496000c010f701d0bb0850f900608e1, 0xc0118b93b18b13a0c28851ab0101829390ce1,
  0xc0118b93b18b13a0c30851ab01018a9390ce1, 0xc0118b93b18b13a0c38851ab01018a9390ce1,
  0x1f9523217178279177000c0143d00304e1, 0x21918e000c0147603a03b4820691,
  0x219973000c014b30b204299e06e7, 0x219d5e000c0114f03a042c820691,
  0x27b49627b19f000c010f701d3c600606e1, 0x21ada0000c015b203a0430820691,
  0x21b1a0000c015b203a0434820691, 0xc010f88b60f80580f78855b28b20aea, 0x1fc944000c0115103a0068820691,
  0x21c18e000c0147a83a03b8820691, 0x21c18e000c0147b03a03b8820691, 0x219973000c018238b204399e06e7,
  0x21cd5e000c0115183a006c820691, 0x21cd5e000c0115203a0070820691, 0x1fc944000c0117803a043c820691,
  0x27e49627e19f000c010f701d3c600606e1, 0x21d5a0000c015b203a0440820691,
  0x21d5a0000c015b203a0444820691, 0xc010449a104e1, 0x29c991000c0150719044507147988508c1,
  0xc015af139044d7b0691, 0x21c18e000c01823c3a044c820691, 0x22092324917829d177000c0143000304e1,
  0x22092324917829d577000c0143000304e1, 0x21cd5e000c0182403a0320820691,
  0x21dda427fda31f2837000c013891a20721, 0x21d5a0000c0182443a0450820691,
  0xc010f88b60f788503b03a5b28b20aea, 0x21e9a427fda31f9037000c013891a20721,
  0x1fc944000c0117803a0454820691, 0xc0103798704e1, 0x21e9a427fda3045837000c018249a20721,
  0x247586000c015cc13937883a48606a08d1, 0x247986000c0148686f5d593937903a08f1,
  0x248d86000c015cc13937a83a48d06a08d1, 0xc015be939045da506e1, 0xc0104618704e1,
  0x220186000c01045da6824c3a06e1, 0xc0103099704658106c1, 0x24b18e000c015c69394c203a03b46a08d1,
  0xc011a10580fd88504686108d1, 0x24d523287d78000c0103b86a43000306d1,
  0x24d523287d78000c0103c06a43000306d1, 0x24d523287d78000c0103c06a43000306d1, 0xc0103d57c04d1,
  0xc0103d97c04d1, 0xc0103dd7c04d1, 0xc0103e17c04d1, 0xc0103e97c04d1, 0xc0103ed7c04d1,
  0xc0103f17c04d1, 0xc0103f17c04d1, 0xc0103f57c04d1, 0xc0103f97c04d1, 0xc0104017c04d1,
  0xc0104057c04d1, 0xc0104097c04d1, 0xc01040d7c04d1, 0xc01040d7c04d1, 0xc01040d7c04d1,
  0xc01040d7c04d1]

def rows2200 : Array Nat := #[
  0xc0104117c04d1, 0xc0104157c04d1, 0xc0104197c04d1, 0xc01041d7c04d1, 0xc01041d7c04d1,
  0xc0104217c04d1, 0xc0104257c04d1, 0xc0103d57d04f1, 0xc0103d97d04f1, 0xc0103dd7d04f1,
  0xc0103e17d04f1, 0xc0103e97d04f1, 0xc0103ed7d04f1, 0xc0103f17d04f1, 0xc0103f17d04f1,
  0xc0103f57d04f1, 0xc0103f97d04f1, 0xc0104017d04f1, 0xc0104057d04f1, 0xc0104097d04f1,
  0xc01040d7d04f1, 0xc01040d7d04f1, 0xc01040d7d04f1, 0xc01040d7d04f1, 0xc0104117d04f1,
  0xc0104157d04f1, 0xc0104197d04f1, 0xc01041d7d04f1, 0xc01041d7d04f1, 0xc0104217d04f1,
  0xc0104257d04f1, 0xc0103d57e04c1, 0xc0103dd7e04c1, 0xc0103e17e04c1, 0xc0103e97e04c1,
  0xc0103ed7e04c1, 0xc0103f17e04c1, 0xc0103f17e04c1, 0xc0103f57e04c1, 0xc0103f97e04c1,
  0xc0104017e04c1, 0xc0104057e04c1, 0xc0104097e04c1, 0xc01040d7e04c1, 0xc01040d7e04c1,
  0xc01040d7e04c1, 0xc01040d7e04c1, 0xc0104117e04c1, 0xc0104157e04c1, 0xc0104197e04c1,
  0xc01041d7e04c1, 0xc01041d7e04c1, 0xc0104217e04c1, 0xc0104257e04c1,
  0x2a5591000c0153799051e07147988508c1, 0x2341a427fda320f837000c013891a20721,
  0x21e9a427fda3216037000c013891a20721, 0x25c986000c015cc13937d03a4c586a08d1,
  0x25cd86000c014c606f5d593937d83a08f1, 0x25d986000c015cc13937f03a4cc06a08d1,
  0x261d86000c015cc13938183a4d186a08d1, 0x262186000c014d206f5d593938203a08f1,
  0x262d86000c015cc13938383a4d806a08d1, 0x266986000c015cc13938603a4dd06a08d1,
  0x266d86000c014dd86f5d593938683a08f1, 0x267986000c015cc13938803a4e386a08d1,
  0x290c9628fd9f000c010f701d3c600606e1, 0x29109629019f000c010f701d3c600606e1,
  0x23a5a81c3847000c010c49a70691, 0x297d23000c01046c043f580306e1, 0x23b13e000c0112303a029c6a06d1,
  0x23b52f000c011ed03a04706a06d1, 0x23b13e000c0112303a29086a06d1, 0xc0117880502d4820691,
  0x257d2f000c011688ae20983a06e1, 0x23c9a9000c0104748515003a06e1, 0xc011790ae0478820691,
  0x23d176000c0129207112f03a06c1, 0xc0117a05804684406e1, 0x23d9aa000c01047c853c703a06e1,
  0xc0117a05804684406e1, 0x23dda81c4047000c010c51a70691, 0x23b13e000c0112303a57a86a06d1,
  0x23b13e000c0112303a57b06a06d1, 0x23f93e000c0112383a00386a06d1, 0x24cd2f000c011ee03a01606a06d1,
  0xb7dab4ba0481ef047000c010731, 0x240975000c0150088516903a06e1, 0x257d2f000c011698ae20983a06e1,
  0x2411a9000c0115283a5b786a06d1, 0x2415a9000c0100748515303a06e1, 0x29c58f000c010af0850f900606e1,
  0x241d76000c0129607112f83a06c1, 0xc0100c5ac04e1, 0x2421aa000c010294853c783a06e1,
  0x23dda8048047000c018251a70691, 0x242543000c0110983a29786a06d1, 0x242943000c0110a03a29806a06d1,
  0x243160000c011bd06f13b83a06f1, 0x29cd91000c0144587147988506c1, 0xc01044d7b0491, 0xc0104857b0491,
  0x23f93e000c0182543a034c6a06d1, 0x257d2f000c011540ae20983a06e1, 0xb91ab4ba0481ef047000c010731,
  0xb99ab4ba0481ef047000c010731, 0x240975000c0103548582583a06e1, 0xc010121ad051d,
  0x24e5a9000c0115483a5bc86a06d1, 0x2415a9000c01048885825c3a06e1, 0xc0104517b0491,
  0x241d76000c01048c7182603a06c1, 0x2421aa000c0104908582643a06e1, 0x245543000c0110a83a29906a06d1,
  0x245543000c0110b03a29986a06d1, 0x245960000c011be06f13d03a06f1, 0x245960000c011be86f13d83a06f1,
  0xc010495ae04ce, 0x29e991000c0144987147988506c1, 0x21bd2323f178000c0143d00304e1,
  0x257d2f000c011558ae20983a06e1, 0xbcdab4ba0481ef047000c010731, 0xc010125ad051d,
  0x246183000c0144d06f0f103a06f1, 0xc010f88b60a58855b28b208ea, 0x245543000c0182683a036c6a06d1,
  0x245960000c01032c6f826c3a06f1, 0xc010f88b60a60855b28b208ea, 0x246183000c0103d06f82703a06f1,
  0xc010f88b60a68855b28b208ea, 0x1e8188000c013968b638988506e1, 0x247d98000c0148707138c03a06c1,
  0xc010f88b60a70855b28b208ea, 0x252186000c0137983a48986a06d1, 0x254986000c0148a06f37a03a06f1,
  0x248998000c0148b87138d03a06c1, 0x248998000c0148c87138d83a06c1, 0xc015df13904998106c1,
  0x248998000c0104647182743a06c1, 0x252186000c0137b03a48f86a06d1, 0x24ad8e000c014c203a03b46a06d1,
  0x24b53e000c01029c6f12683a06f1, 0x24bd2f000c0104706f20a83a06f1, 0x24c5aa000c013c803a047c6a06d1,
  0xc011a105804686106d1, 0xc010fe08504686106d1, 0xc0100edad051d, 0x24d98e000c014c283a03b86a06d1,
  0x24d98e000c014c303a03b86a06d1, 0x24dd3e000c0100386f12783a06f1, 0xc0102898c04d1,
  0x25312f000c0101606f20b83a06f1, 0xc0100c58c04d1, 0x24e9aa000c013c883a02946a06d1, 0xc0100f1ad051d,
  0x24cd2f000c0182783a02846a06d1, 0xc010349ae04ce, 0xc015c6939044c6106d1,
  0x24d98e000c01827c3a044c6a06d1, 0x24dd3e000c01034c6f82803a06f1, 0xc81ab4e784820c047000c010731,
  0x24e5a9000c0182843a04886a06d1, 0x24e9aa000c0182883a04906a06d1, 0xc0100f5ad051d, 0xc01035dae04ce,
  0xc01035dae04ce, 0xc01035dae04ce, 0x24d523287d78000c0143000304e1, 0xcb5ab4e784820c047000c010731,
  0xc010371ae04ce, 0xc010371ae04ce, 0xc010371ae04ce, 0xc0103799a04d1, 0xc010385ae04ce,
  0xc015cc139045c6106d1, 0xc0104619a04d1, 0x252186000c01828c3a045c6a06d1,
  0x25293e000c01029c7112a83a06c1, 0x25393e000c0100387112b03a06c1, 0x253544000c0115983a004c6a06d1,
  0x25312f000c0102846f82903a06f1, 0x253544000c0182943a02e06a06d1, 0x25393e000c01034c7182983a06c1,
  0xc0103799b04f1, 0xc015d5939045c6406f1, 0xc0104619b04f1, 0x254986000c01045c6f829c3a06f1,
  0xc010225af0491, 0xc010229af0491, 0x255944000c01004c6f15b83a06f1, 0x255944000c0102e06f82a03a06f1,
  0xc0103799c04c1, 0xc0104619c04c1, 0x256944000c01004c8516c03a06e1, 0x256944000c0102e08582a43a06e1,
  0x2579a8515047000c010c59a70691, 0x23b13e000c0112303a30b06a06d1, 0x259176000c0130d07113183a06c1,
  0x23dda8519047000c010c61a70691, 0x25952f000c01002cae20b03a06e1]

end SourceAtlas.Python.Automaton
